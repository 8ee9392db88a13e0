import CodeAtlas.Proofs.Json.RoundTrip
import CodeAtlas.Proofs.Text.Utf8
import CodeAtlas.Wire.Frame

namespace CodeAtlas.Wire

open Text Text.Numeral
open Nat (toDigits)

theorem frameOf_eq_ok {message : Json} {frame : List UInt8} :
    frameOf message = .ok frame ↔ message.isShort = true ∧ message.isEncodable = true ∧
      isLong (bodyOf message).length = false ∧ frame = encode message := by
  unfold frameOf
  cases message.isShort <;> cases message.isEncodable <;> cases isLong (bodyOf message).length <;>
    simp [eq_comm]

theorem readHeader_line (closed : Bool) (known : Option Int) {line : List UInt8}
    (h : ∀ b ∈ line, b ≠ 10) (taken rest : List UInt8) :
    readHeader closed known taken (line ++ rest) =
      readHeader closed known (line.reverse ++ taken) rest := by
  induction line generalizing taken with
  | nil => rfl
  | cons b line ih =>
      rw [List.cons_append, readHeader.eq_def]
      simp only [ne_eq, h b List.mem_cons_self, not_false_eq_true, if_true]
      rw [ih (fun x hx => h x (List.mem_cons_of_mem _ hx)), List.reverse_cons, List.append_assoc]
      rfl

theorem readHeader_said (closed : Bool) (known : Option Int) {line : List UInt8} {said : Option Int}
    (h : ∀ b ∈ line, b ≠ 10) (hblank : isBlankLine (line ++ [10]) = false)
    (hsaid : lengthAfter known (line ++ [10]) = .ok said) (rest : List UInt8) :
    readHeader closed known [] (line ++ 10 :: rest) = readHeader closed said [] rest := by
  have hline : (10 :: (line.reverse ++ [])).reverse = line ++ [10] := by simp
  rw [readHeader_line closed known h, readHeader.eq_def]
  simp only [ne_eq, not_true_eq_false, if_false, hline, hblank, hsaid, Bool.false_eq_true]

theorem readHeader_blank (closed : Bool) (length : Int) (rest : List UInt8) :
    readHeader closed (some length) [] (13 :: 10 :: rest) = readBody closed length rest := by
  rfl

theorem readBody_written (closed : Bool) {message : Json} {body : List UInt8}
    (h : parseBody body = .ok message) (rest : List UInt8) :
    readBody closed body.length (body ++ rest) = .message message rest := by
  unfold readBody
  rw [if_neg (by omega), if_neg (by simp only [List.length_append]; omega)]
  simp [h]

theorem parseBody_encode {text : List Char} {value : Json} (h : Json.Reader.read text = .ok value) :
    parseBody (Utf8.encode text) = .ok value := by
  simp only [parseBody, Utf8.decode?_encode, h]
  rfl

theorem parseBody_bodyOf {message : Json} (hp : message.Plain) (hs : message.isShort = true) :
    parseBody (bodyOf message) = .ok message := parseBody_encode (Json.read_compact hp hs)

theorem readBody_shorter {closed : Bool} {length : Int} {bytes rest : List UInt8} {value : Json}
    (h : readBody closed length bytes = .message value rest) : rest.length ≤ bytes.length := by
  unfold readBody at h
  split at h
  next => simp at h
  next =>
    split at h
    next => split at h <;> simp at h
    next =>
      split at h
      next =>
        obtain ⟨-, rfl⟩ := Reading.message.inj h
        simp
      next => simp at h

theorem readHeader_shorter {closed : Bool} {known : Option Int} {line bytes rest : List UInt8}
    {value : Json} (h : readHeader closed known line bytes = .message value rest) :
    rest.length < bytes.length := by
  induction bytes generalizing known line with
  | nil =>
      have hend (known : Option Int) : atEnd known ≠ .message value rest := by
        cases known <;> simp [atEnd]
      unfold readHeader at h
      split at h
      next => simp at h
      next =>
        split at h
        next => exact absurd h (hend _)
        next =>
          split at h
          next => simp at h
          next => exact absurd h (hend _)
  | cons b bytes ih =>
      unfold readHeader at h
      split at h
      next => exact Nat.lt_succ_of_lt (ih h)
      next =>
        split at h
        next =>
          split at h
          next => simp at h
          next => exact Nat.lt_succ_of_le (readBody_shorter h)
        next =>
          split at h
          next => simp at h
          next => exact Nat.lt_succ_of_lt (ih h)

theorem next_shorter {closed : Bool} {bytes rest : List UInt8} {value : Json}
    (h : next closed bytes = .message value rest) : rest.length < bytes.length := readHeader_shorter h

theorem readBody_broken {closed : Bool} {length : Int} {bytes : List UInt8} {e : Failure}
    (h : readBody closed length bytes = .broken e) : (e.isService || e.isRefusal) = true := by
  unfold readBody at h
  split at h
  next => exact Reading.broken.inj h ▸ rfl
  next =>
    split at h
    next =>
      split at h
      next => exact Reading.broken.inj h ▸ rfl
      next => simp at h
    next =>
      split at h
      next => simp at h
      next e' hbody =>
        obtain rfl := Reading.broken.inj h
        unfold parseBody at hbody
        split at hbody
        next => exact Except.error.inj hbody ▸ rfl
        next text _ =>
          cases hread : Json.Reader.read text with
          | ok value => simp [hread, Except.mapError] at hbody
          | error misread =>
              rw [hread] at hbody
              cases misread <;> exact Except.error.inj hbody ▸ rfl

theorem lengthAfter_error {known : Option Int} {line : List UInt8} {e : Failure}
    (h : lengthAfter known line = .error e) : (e.isService || e.isRefusal) = true := by
  unfold lengthAfter at h
  split at h
  next => exact Except.error.inj h ▸ rfl
  next text _ =>
    simp only at h
    split at h
    next =>
      cases hread : readInteger (splitHeader text).2 with
      | ok n => simp [integerOf, hread, Except.mapError, Except.map] at h
      | error misread =>
          rw [integerOf, hread] at h
          exact Except.error.inj h ▸ rfl
    next => simp at h

theorem atEnd_broken {known : Option Int} {e : Failure} (h : atEnd known = .broken e) :
    (e.isService || e.isRefusal) = true := by
  cases known with
  | none => simp [atEnd] at h
  | some n => exact Reading.broken.inj h ▸ rfl

theorem readHeader_broken {closed : Bool} {known : Option Int} {line bytes : List UInt8}
    {e : Failure} (h : readHeader closed known line bytes = .broken e) :
    (e.isService || e.isRefusal) = true := by
  induction bytes generalizing known line with
  | nil =>
      unfold readHeader at h
      split at h
      next => simp at h
      next =>
        split at h
        next => exact atEnd_broken h
        next =>
          split at h
          next hlength => exact Reading.broken.inj h ▸ lengthAfter_error hlength
          next => exact atEnd_broken h
  | cons b bytes ih =>
      unfold readHeader at h
      split at h
      next => exact ih h
      next =>
        split at h
        next =>
          split at h
          next => exact Reading.broken.inj h ▸ rfl
          next => exact readBody_broken h
        next =>
          split at h
          next hlength => exact Reading.broken.inj h ▸ lengthAfter_error hlength
          next => exact ih h

theorem next_broken {closed : Bool} {bytes : List UInt8} {e : Failure}
    (h : next closed bytes = .broken e) : (e.isService || e.isRefusal) = true := readHeader_broken h

theorem encode_ascii {text : List Char} (h : ∀ c ∈ text, c.toNat < 128) :
    Utf8.encode text = text.map fun c => UInt8.ofNat c.toNat := by
  rw [Utf8.encode, List.map_eq_flatMap]
  refine List.flatMap_congr fun c hc => ?_
  rw [Utf8.encodeChar, if_pos (h c hc)]

theorem toNat_ascii {c : Char} (h : c.toNat < 128) : (UInt8.ofNat c.toNat).toNat = c.toNat :=
  Utf8.toNat_ofNat (Nat.lt_trans h (by decide))

theorem asciiText_encode {text : List Char} (h : ∀ c ∈ text, c.toNat < 128) :
    asciiText (Utf8.encode text) = some text := by
  have hall : (Utf8.encode text).all (fun b => b.toNat < 128) = true := by
    rw [encode_ascii h, List.all_map, List.all_eq_true]
    intro c hc
    simpa [toNat_ascii (h c hc)] using h c hc
  rw [asciiText, if_pos hall, encode_ascii h, List.map_map]
  congr 1
  rw [List.map_congr_left (g := id), List.map_id]
  intro c hc
  simp only [Function.comp_apply, toNat_ascii (h c hc), Char.ofNat_toNat, id]

theorem lengthAfter_ascii {line : List Char} (h : ∀ c ∈ line, c.toNat < 128) (known : Option Int) :
    lengthAfter known (Utf8.encode line) =
      if lowered (splitHeader line).1 = lengthName then
        (integerOf (splitHeader line).2).map some
      else .ok known := by
  rw [lengthAfter, asciiText_encode h]

theorem no_lineFeed {text : List Char} (h : ∀ c ∈ text, c.toNat < 128) (hn : '\n' ∉ text) :
    ∀ b ∈ Utf8.encode text, b ≠ 10 := by
  rw [encode_ascii h, List.forall_mem_map]
  rintro c hc hten
  have hcode : c.toNat = '\n'.toNat := by
    rw [← toNat_ascii (h c hc), hten]
    rfl
  exact hn (Char.toNat_inj.mp hcode ▸ hc)

theorem ne_colon {name : List Char} (h : ':' ∉ name) : ∀ c ∈ name, decide (c ≠ ':') = true :=
  fun _ hc => decide_eq_true (ne_of_mem_of_not_mem hc h)

theorem cut_colon {name : List Char} (h : ':' ∉ name) (value : List Char) :
    (name ++ ':' :: value).takeWhile (· ≠ ':') = name ∧
      (name ++ ':' :: value).dropWhile (· ≠ ':') = ':' :: value := by
  rw [List.takeWhile_append_of_pos (ne_colon h), List.dropWhile_append_of_pos (ne_colon h)]
  simp

theorem splitHeader_colon {name : List Char} (h : ':' ∉ name) (value : List Char) :
    splitHeader (name ++ ':' :: value) = (trim isBlank name, trim isBlank value) := by
  rw [splitHeader, (cut_colon h value).1, (cut_colon h value).2]
  rfl

theorem splitHeader_bare {line : List Char} (h : ':' ∉ line) :
    splitHeader line = (trim isBlank line, []) := by
  rw [splitHeader, List.takeWhile_eq_self_iff.mpr (ne_colon h),
    List.dropWhile_eq_nil_iff.mpr (ne_colon h)]
  rfl

def lengthLine (length : Nat) : List Char :=
  "Content-Length: ".toList ++ toDigits 10 length ++ ['\r']

theorem headerText_eq (length : Nat) :
    headerText length = lengthLine length ++ '\n' :: ['\r', '\n'] := by
  unfold headerText lengthLine
  generalize toDigits 10 length = digits
  simp

theorem splitHeader_lengthLine (length : Nat) :
    splitHeader (lengthLine length ++ ['\n']) = ("Content-Length".toList, toDigits 10 length) := by
  have hdigits : ∀ c ∈ toDigits 10 length, isBlank c = false := fun c hc =>
    isBlank_of_isAsciiDigit (isAsciiDigit_of_mem hc)
  have hline : lengthLine length ++ ['\n'] =
      "Content-Length".toList ++ ':' :: ([' '] ++ toDigits 10 length ++ ['\r', '\n']) := by
    unfold lengthLine
    generalize toDigits 10 length = digits
    simp
  have hspace : ∀ c ∈ [' '], isBlank c = true := List.forall_mem_singleton.mpr rfl
  have hend : ∀ c ∈ ['\r', '\n'], isBlank c = true :=
    List.forall_mem_cons.mpr ⟨rfl, List.forall_mem_singleton.mpr rfl⟩
  rw [hline, splitHeader_colon (by simp), trim_eq hspace hdigits hend]
  rfl

theorem ascii_lengthLine (length : Nat) :
    (∀ c ∈ lengthLine length, c.toNat < 128) ∧ '\n' ∉ lengthLine length := by
  have hname : ∀ c ∈ "Content-Length: ".toList, c.toNat < 128 ∧ c ≠ '\n' := by simp
  have hdigits : ∀ c ∈ toDigits 10 length, c.toNat < 128 ∧ c ≠ '\n' := fun c hc => by
    have hc := toNat_of_isAsciiDigit (isAsciiDigit_of_mem hc)
    refine ⟨by omega, ?_⟩
    rintro rfl
    exact absurd hc (by decide)
  have hend : ∀ c ∈ ['\r'], c.toNat < 128 ∧ c ≠ '\n' := by simp
  have hall : ∀ c ∈ lengthLine length, c.toNat < 128 ∧ c ≠ '\n' :=
    List.forall_mem_append.mpr ⟨List.forall_mem_append.mpr ⟨hname, hdigits⟩, hend⟩
  exact ⟨fun c hc => (hall c hc).1, fun hn => (hall '\n' hn).2 rfl⟩

theorem lengthAfter_lengthLine (known : Option Int) {length : Nat} (h : isLong length = false) :
    lengthAfter known (Utf8.encode (lengthLine length ++ ['\n'])) = .ok (some length) := by
  have hname : lowered "Content-Length".toList = lengthName := by decide
  have hvalue : integerOf (toDigits 10 length) = .ok length := by
    rw [integerOf, readInteger_toDigits h]
    rfl
  have hascii : ∀ c ∈ lengthLine length ++ ['\n'], c.toNat < 128 :=
    List.forall_mem_append.mpr ⟨(ascii_lengthLine length).1, by simp⟩
  rw [lengthAfter_ascii hascii]
  simp only [splitHeader_lengthLine, hname, if_true, hvalue, Except.map]

theorem encode_append (s t : List Char) : Utf8.encode (s ++ t) = Utf8.encode s ++ Utf8.encode t :=
  List.flatMap_append

theorem readHeader_lengthLine (closed : Bool) {length : Nat} (h : isLong length = false)
    (rest : List UInt8) :
    readHeader closed none [] (Utf8.encode (lengthLine length) ++ 10 :: rest) =
      readHeader closed (some length) [] rest := by
  obtain ⟨hascii, hfeed⟩ := ascii_lengthLine length
  have hblank : isBlankLine (Utf8.encode (lengthLine length) ++ [10]) = false := by
    rfl
  have hsaid := lengthAfter_lengthLine none h
  rw [encode_append] at hsaid
  exact readHeader_said closed none (no_lineFeed hascii hfeed) hblank hsaid rest

theorem encode_headerText (length : Nat) (rest : List UInt8) :
    Utf8.encode (headerText length) ++ rest =
      Utf8.encode (lengthLine length) ++ 10 :: 13 :: 10 :: rest := by
  rw [headerText_eq, encode_append, List.append_assoc]
  rfl

theorem readHeader_headerText (closed : Bool) {length : Nat} (h : isLong length = false)
    (rest : List UInt8) :
    readHeader closed none [] (Utf8.encode (headerText length) ++ rest) =
      readBody closed length rest := by
  rw [encode_headerText, readHeader_lengthLine closed h, readHeader_blank]

theorem next_encode (closed : Bool) {message : Json} (hp : message.Plain)
    (hs : message.isShort = true) (hl : isLong (bodyOf message).length = false)
    (rest : List UInt8) : next closed (encode message ++ rest) = .message message rest := by
  simp only [next, encode]
  rw [List.append_assoc, readHeader_headerText closed hl,
    readBody_written closed (parseBody_bodyOf hp hs)]

/-- Messages that are read one after the other, and the bytes that are left. -/
inductive Reads (closed : Bool) : List UInt8 → List Json → List UInt8 → Prop
  | nil (bytes : List UInt8) : Reads closed bytes [] bytes
  | cons {bytes mid rest : List UInt8} {message : Json} {later : List Json}
      (first : next closed bytes = .message message mid) (others : Reads closed mid later rest) :
      Reads closed bytes (message :: later) rest

theorem mapM_frameOf_cons {message : Json} {later : List Json} {frames : List (List UInt8)} :
    (message :: later).mapM frameOf = .ok frames ↔ ∃ frame others,
      frameOf message = .ok frame ∧ later.mapM frameOf = .ok others ∧ frames = frame :: others := by
  rw [List.mapM_cons]
  cases frameOf message with
  | error e => simp [bind, Except.bind]
  | ok frame =>
      cases later.mapM frameOf with
      | error e => simp [bind, Except.bind]
      | ok others => simp [bind, Except.bind, pure, Except.pure, eq_comm]

theorem exists_frames {messages : List Json} (hp : ∀ m ∈ messages, m.Plain) :
    (∃ frames, messages.mapM frameOf = .ok frames) ↔
      ∀ m ∈ messages, m.isShort = true ∧ isLong (bodyOf m).length = false := by
  induction messages with
  | nil => simp [pure, Except.pure]
  | cons message later ih =>
      have he := (hp message List.mem_cons_self).isEncodable
      rw [List.forall_mem_cons, ← ih fun m hm => hp m (List.mem_cons_of_mem _ hm)]
      constructor
      · rintro ⟨frames, h⟩
        obtain ⟨frame, others, hframe, hothers, -⟩ := mapM_frameOf_cons.mp h
        obtain ⟨hs, -, hl, -⟩ := frameOf_eq_ok.mp hframe
        exact ⟨⟨hs, hl⟩, others, hothers⟩
      · rintro ⟨⟨hs, hl⟩, others, hothers⟩
        exact ⟨_, mapM_frameOf_cons.mpr ⟨_, others, frameOf_eq_ok.mpr ⟨hs, he, hl, rfl⟩, hothers, rfl⟩⟩

theorem reads_of_frames {messages : List Json} (hp : ∀ m ∈ messages, m.Plain)
    {frames : List (List UInt8)} (hf : messages.mapM frameOf = .ok frames) (closed : Bool)
    (rest : List UInt8) : Reads closed (frames.flatten ++ rest) messages rest := by
  induction messages generalizing frames with
  | nil =>
      obtain rfl : [] = frames := Except.ok.inj hf
      exact .nil rest
  | cons message later ih =>
      obtain ⟨frame, others, hframe, hothers, rfl⟩ := mapM_frameOf_cons.mp hf
      obtain ⟨hs, -, hl, rfl⟩ := frameOf_eq_ok.mp hframe
      rw [List.flatten_cons, List.append_assoc]
      exact .cons (next_encode closed (hp message List.mem_cons_self) hs hl _)
        (ih (fun m hm => hp m (List.mem_cons_of_mem _ hm)) hothers)

theorem Reads.readAll {bytes rest : List UInt8} {messages : List Json}
    (h : Reads true bytes messages rest) (hobject : ∀ m ∈ messages, m.isObject = true) (count : Nat) :
    readAll (messages.length + count) bytes = messages.map .ok ++ readAll count rest := by
  induction h with
  | nil => simp
  | @cons bytes mid rest message later first _ ih =>
      obtain ⟨ho, hothers⟩ := List.forall_mem_cons.mp hobject
      rw [List.length_cons, Nat.add_right_comm, Wire.readAll, first]
      cases message with
      | object fields => simp [ih hothers]
      | _ => simp [Json.isObject] at ho

/-- Objects are written unless a number is too long, and their frames in a
row are read back, up to the first byte that is not theirs. At the end of
the stream there is nothing more. -/
theorem reads_frames {messages : List Json}
    (hp : ∀ m ∈ messages, m.Plain ∧ m.isObject = true) :
    ((∃ frames, messages.mapM frameOf = .ok frames) ↔
      ∀ m ∈ messages, m.isShort = true ∧ isLong (bodyOf m).length = false) ∧
    ∀ frames, messages.mapM frameOf = .ok frames →
      (∀ closed rest, Reads closed (frames.flatten ++ rest) messages rest) ∧
      next true [] = .ended ∧
      Wire.readAll (messages.length + 1) frames.flatten = messages.map .ok ++ [.ok .null] := by
  have hplain : ∀ m ∈ messages, m.Plain := fun m hm => (hp m hm).1
  refine ⟨exists_frames hplain, fun frames hf => ⟨reads_of_frames hplain hf, rfl, ?_⟩⟩
  have hreads := reads_of_frames hplain hf true []
  rw [List.append_nil] at hreads
  exact hreads.readAll (fun m hm => (hp m hm).2) 1

/-- Escapes, characters of several bytes, nested values and an empty object. -/
def sampleMessages : List Json :=
  [.object [("a\"\n", .list [.int (-50), .null, .bool true, .object [], .text "\\é日😀\x01"])],
    .object []]

theorem reads_frames_sample :
    (∀ m ∈ sampleMessages, m.Plain ∧ m.isObject = true) ∧
    ∃ frames, sampleMessages.mapM frameOf = .ok frames ∧
      (∀ closed rest, Reads closed (frames.flatten ++ rest) sampleMessages rest) ∧
      Wire.readAll 3 frames.flatten = sampleMessages.map .ok ++ [.ok .null] := by
  have hlist : Json.Plain (.list [.int (-50), .null, .bool true, .object [], .text "\\é日😀\x01"]) := by
    refine .list ?_
    simp only [List.forall_mem_cons, List.not_mem_nil, false_imp_iff, implies_true, and_true]
    exact ⟨.int _, .null, .bool _, .object List.nodup_nil (by simp), .text _⟩
  have hp : ∀ m ∈ sampleMessages, m.Plain ∧ m.isObject = true := by
    simp only [sampleMessages, List.forall_mem_cons, List.not_mem_nil, false_imp_iff, implies_true,
      and_true]
    exact ⟨⟨.object (by simp) (by simpa using hlist), rfl⟩, .object List.nodup_nil (by simp), rfl⟩
  have hs : ∀ m ∈ sampleMessages, m.isShort = true ∧ isLong (bodyOf m).length = false := by
    decide +kernel
  obtain ⟨hwritten, hread⟩ := reads_frames hp
  obtain ⟨frames, hf⟩ := hwritten.mpr hs
  obtain ⟨hreads, -, hall⟩ := hread frames hf
  exact ⟨hp, frames, hf, hreads, hall⟩

end CodeAtlas.Wire
