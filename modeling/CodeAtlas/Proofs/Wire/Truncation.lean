import CodeAtlas.Proofs.Wire.Framing

namespace CodeAtlas.Wire

open Text Text.Numeral
open Nat (toDigits)

theorem readHeader_lastLine {line : List UInt8} (h : ∀ b ∈ line, b ≠ 10) (hne : line ≠ [])
    (known : Option Int) :
    readHeader true known [] line =
      match lengthAfter known line with
      | .error e => .broken e
      | .ok said => atEnd said := by
  have hline := readHeader_line true known h [] []
  rw [List.append_nil, List.append_nil] at hline
  rw [hline, readHeader.eq_def]
  cases hsaid : lengthAfter known line <;> simp [hne, hsaid]

def lengthMark : List Char := "Content-Length: ".toList

theorem lengthLine_eq (length : Nat) :
    lengthLine length = lengthMark ++ (toDigits 10 length ++ ['\r']) := List.append_assoc _ _ _

theorem splitHeader_mark :
    (∀ k < lengthName.length, lowered (splitHeader (lengthMark.take k)).1 ≠ lengthName) ∧
    ∀ k ≤ lengthMark.length, lengthName.length ≤ k →
      lowered (splitHeader (lengthMark.take k)).1 = lengthName ∧
        (splitHeader (lengthMark.take k)).2 = [] := by
  decide

theorem ascii_take (length k : Nat) : ∀ c ∈ (lengthLine length).take k, c.toNat < 128 :=
  fun c hc => (ascii_lengthLine length).1 c (List.mem_of_mem_take hc)

theorem lengthAfter_inName (length : Nat) {k : Nat} (hk : k < lengthName.length) :
    lengthAfter none (Utf8.encode ((lengthLine length).take k)) = .ok none := by
  have hmark : (lengthLine length).take k = lengthMark.take k := by
    rw [lengthLine_eq, List.take_append_of_le_length (Nat.le_of_lt (Nat.lt_trans hk (by decide)))]
  rw [lengthAfter_ascii (ascii_take length k), hmark, if_neg (splitHeader_mark.1 k hk)]

theorem lengthAfter_atMark (length : Nat) {k : Nat} (hk : lengthName.length ≤ k)
    (hk' : k ≤ lengthMark.length) :
    lengthAfter none (Utf8.encode ((lengthLine length).take k)) =
      .error (.refused (.badInteger "''")) := by
  have hmark : (lengthLine length).take k = lengthMark.take k := by
    rw [lengthLine_eq, List.take_append_of_le_length hk']
  obtain ⟨hname, hvalue⟩ := splitHeader_mark.2 k hk' hk
  rw [lengthAfter_ascii (ascii_take length k), hmark, if_pos hname, hvalue]
  rfl

theorem take_lengthLine (length : Nat) {k : Nat} (hk : lengthMark.length < k) :
    ∃ digits after, (lengthLine length).take k =
        "Content-Length".toList ++ ':' :: ([' '] ++ digits ++ after) ∧
      digits ≠ [] ∧ digits <+: toDigits 10 length ∧ ∀ c ∈ after, isBlank c = true := by
  refine ⟨(toDigits 10 length).take (k - lengthMark.length),
    ['\r'].take (k - lengthMark.length - (toDigits 10 length).length), ?_, ?_,
    List.take_prefix _ _, fun c hc => ?_⟩
  · rw [lengthLine_eq, List.take_append, List.take_of_length_le (Nat.le_of_lt hk), List.take_append]
    rfl
  · rw [ne_eq, List.take_eq_nil_iff, not_or]
    exact ⟨by omega, Nat.toDigits_ne_nil⟩
  · obtain rfl := List.mem_singleton.mp (List.mem_of_mem_take hc)
    rfl

theorem lengthAfter_inDigits {length : Nat} (h : isLong length = false) {k : Nat}
    (hk : lengthMark.length < k) :
    ∃ n, lengthAfter none (Utf8.encode ((lengthLine length).take k)) = .ok (some n) := by
  obtain ⟨digits, after, htake, hne, hpre, hafter⟩ := take_lengthLine length hk
  have hdigits : ∀ c ∈ digits, isAsciiDigit c = true := fun c hc =>
    isAsciiDigit_of_mem (hpre.subset hc)
  have hshort : digits.length ≤ maxDigits := hpre.length_le.trans (length_toDigits_le h)
  have hvalue : trim isBlank ([' '] ++ digits ++ after) = digits :=
    trim_eq (List.forall_mem_singleton.mpr rfl)
      (fun c hc => isBlank_of_isAsciiDigit (hdigits c hc)) hafter
  have hname : lowered (trim isBlank "Content-Length".toList) = lengthName := by decide
  refine ⟨digitsValue digits, ?_⟩
  rw [lengthAfter_ascii (ascii_take length k), htake, splitHeader_colon (by decide), hvalue,
    if_pos hname, integerOf, readInteger_digits hne hdigits hshort]
  rfl

/-- What is reported for a frame of which only some bytes came. -/
def cutReading (length taken : Nat) : Reading :=
  if taken < lengthName.length then .ended
  else if taken ≤ lengthMark.length then .broken (.refused (.badInteger "''"))
  else if taken < (headerText length).length then .broken (.frame .endInHeader)
  else .broken (.frame .endInBody)

theorem cutReading_ended {length taken : Nat} (h : taken < lengthName.length) :
    cutReading length taken = .ended := if_pos h

theorem cutReading_broken {length taken : Nat} (h : ¬ taken < lengthName.length) :
    ∃ e, cutReading length taken = .broken e := by
  rw [cutReading, if_neg h]
  split
  next => exact ⟨_, rfl⟩
  next => split <;> exact ⟨_, rfl⟩

theorem length_headerText (length : Nat) :
    lengthMark.length < (lengthLine length).length ∧
      (headerText length).length = (lengthLine length).length + 3 := by
  rw [headerText_eq, lengthLine_eq]
  constructor
  · simp only [List.length_append, List.length_cons, List.length_nil]
    omega
  · simp only [List.length_append, List.length_cons, List.length_nil]

theorem cutReading_inHeader {length taken : Nat} (h : lengthMark.length < taken)
    (h' : taken < (headerText length).length) :
    cutReading length taken = .broken (.frame .endInHeader) := by
  have hname : lengthName.length ≤ lengthMark.length := by decide
  rw [cutReading, if_neg (by omega), if_neg (by omega), if_pos h']

theorem cutReading_inBody {length taken : Nat} (h : (headerText length).length ≤ taken) :
    cutReading length taken = .broken (.frame .endInBody) := by
  have hname : lengthName.length ≤ lengthMark.length := by decide
  obtain ⟨hmark, hheader⟩ := length_headerText length
  rw [cutReading, if_neg (by omega), if_neg (by omega), if_neg (by omega)]

theorem readHeader_cutLine {length : Nat} (h : isLong length = false) {k : Nat}
    (hk : k ≤ (lengthLine length).length) :
    readHeader true none [] (Utf8.encode ((lengthLine length).take k)) = cutReading length k := by
  have hfeed : '\n' ∉ (lengthLine length).take k := fun hn =>
    (ascii_lengthLine length).2 (List.mem_of_mem_take hn)
  have hline := no_lineFeed (ascii_take length k) hfeed
  obtain rfl | hpos := Nat.eq_zero_or_pos k
  · rfl
  have hne : Utf8.encode ((lengthLine length).take k) ≠ [] := by
    intro hnil
    have htake : (lengthLine length).take k = [] := Utf8.encode_inj.mp (hnil.trans rfl)
    obtain hzero | hempty := List.take_eq_nil_iff.mp htake
    · omega
    · exact absurd (length_headerText length).1 (by simp [hempty])
  rw [readHeader_lastLine hline hne]
  by_cases hname : k < lengthName.length
  · rw [lengthAfter_inName length hname, cutReading_ended hname]
    rfl
  by_cases hmark : k ≤ lengthMark.length
  · rw [lengthAfter_atMark length (Nat.le_of_not_lt hname) hmark, cutReading, if_neg hname,
      if_pos hmark]
  · obtain ⟨n, hn⟩ := lengthAfter_inDigits h (Nat.lt_of_not_le hmark)
    obtain ⟨-, hheader⟩ := length_headerText length
    rw [hn, cutReading_inHeader (by omega) (by omega)]
    rfl

theorem encode_split (message : Json) :
    encode message = Utf8.encode (lengthLine (bodyOf message).length) ++
      10 :: 13 :: 10 :: bodyOf message := encode_headerText _ _

theorem length_encode_ascii {text : List Char} (h : ∀ c ∈ text, c.toNat < 128) :
    (Utf8.encode text).length = text.length := by
  rw [encode_ascii h, List.length_map]

theorem take_encode_ascii {text : List Char} (h : ∀ c ∈ text, c.toNat < 128) (k : Nat) :
    (Utf8.encode text).take k = Utf8.encode (text.take k) := by
  rw [encode_ascii h, encode_ascii fun c hc => h c (List.mem_of_mem_take hc), List.map_take]

theorem readBody_cut {r q : List UInt8} (hq : q ≠ []) :
    readBody true (r ++ q).length r = .broken (.frame .endInBody) := by
  have hpos : 0 < q.length := List.length_pos_iff.mpr hq
  rw [readBody, if_neg (by omega), if_pos (by simp only [List.length_append]; omega)]
  rfl

theorem readHeader_cutAfterLine {came q body : List UInt8} (h : 13 :: 10 :: body = came ++ q)
    (hq : q ≠ []) :
    readHeader true (some body.length) [] came =
      .broken (.frame (if came.length < 2 then .endInHeader else .endInBody)) := by
  match came, h with
  | [], _ => rfl
  | [b], h =>
      obtain ⟨rfl, -⟩ := List.cons.inj h
      rfl
  | b :: c :: r, h =>
      obtain ⟨rfl, hfeed⟩ := List.cons.inj h
      obtain ⟨rfl, rfl⟩ := List.cons.inj hfeed
      rw [readHeader_blank]
      exact readBody_cut hq

theorem next_eq_cutReading {message : Json} {p q : List UInt8} (h : frameOf message = .ok (p ++ q))
    (hq : q ≠ []) : next true p = cutReading (bodyOf message).length p.length := by
  obtain ⟨-, -, hlong, hframe⟩ := frameOf_eq_ok.mp h
  rw [encode_split] at hframe
  generalize bodyOf message = body at hframe hlong ⊢
  obtain ⟨hmark, hheader⟩ := length_headerText body.length
  have hascii := (ascii_lengthLine body.length).1
  have hlength := length_encode_ascii hascii
  obtain ⟨as, hline, -⟩ | ⟨bs, rfl, hrest⟩ := List.append_eq_append_iff.mp hframe
  · have hp : p = Utf8.encode ((lengthLine body.length).take p.length) := by
      rw [← take_encode_ascii hascii, hline, List.take_left]
    have hle : p.length ≤ (lengthLine body.length).length := by
      rw [← hlength, hline, List.length_append]
      omega
    rw [next, hp, readHeader_cutLine hlong hle, ← hp]
  · rw [next]
    cases bs with
    | nil =>
        have hall := readHeader_cutLine hlong (Nat.le_refl (lengthLine body.length).length)
        rw [List.take_length] at hall
        rw [List.append_nil, hall, hlength]
    | cons b came =>
        obtain ⟨rfl, hcame⟩ := List.cons.inj hrest
        rw [readHeader_lengthLine true hlong, readHeader_cutAfterLine hcame hq, List.length_append,
          List.length_cons, hlength]
        split
        next => rw [cutReading_inHeader (by omega) (by omega)]
        next => rw [cutReading_inBody (by omega)]

/-- No part of a frame is taken for a message. Its end is told from a clean
one exactly when the name of its header has come. -/
theorem next_cut {message : Json} {p q : List UInt8} (h : frameOf message = .ok (p ++ q))
    (hq : q ≠ []) :
    next true p = cutReading (bodyOf message).length p.length ∧
    (∀ value rest, next true p ≠ .message value rest) ∧
    (next true p = .ended ↔ p.length < lengthName.length) ∧
    (lengthName.length ≤ p.length → ∃ e, next true p = .broken e) := by
  have hcut := next_eq_cutReading h hq
  rw [hcut]
  by_cases hname : p.length < lengthName.length
  · rw [cutReading_ended hname]
    exact ⟨rfl, fun _ _ => nofun, iff_of_true rfl hname, fun hle => absurd hname (by omega)⟩
  · have hbroken : ∃ e, cutReading (bodyOf message).length p.length = .broken e :=
      cutReading_broken hname
    obtain ⟨e, he⟩ := hbroken
    rw [he]
    exact ⟨rfl, fun _ _ => nofun, iff_of_false nofun hname, fun _ => ⟨e, rfl⟩⟩

theorem next_cut_character :
    frameOf (.object [("é", .null)]) =
      .ok (Utf8.encode "Content-Length: 11\r\n\r\n\x7b\"".toList ++ [0xC3] ++
        [0xA9, 34, 58, 110, 117, 108, 108, 125]) ∧
    next true (Utf8.encode "Content-Length: 11\r\n\r\n\x7b\"".toList ++ [0xC3]) =
      .broken (.frame .endInBody) := by
  have hframe : frameOf (.object [("é", .null)]) =
      .ok (Utf8.encode "Content-Length: 11\r\n\r\n\x7b\"".toList ++ [0xC3] ++
        [0xA9, 34, 58, 110, 117, 108, 108, 125]) :=
    frameOf_eq_ok.mpr ⟨rfl, rfl, by decide +kernel, by decide +kernel⟩
  refine ⟨hframe, (next_cut hframe (by decide)).1.trans (cutReading_inBody ?_)⟩
  decide +kernel

/-- The first letter of a header is taken for the end between two frames. -/
theorem cut_name_unnoticed : ¬ ∀ (message : Json) (p q : List UInt8), message.isObject = true →
    frameOf message = .ok (p ++ q) → p ≠ [] → q ≠ [] → ∃ e, next true p = .broken e := by
  intro h
  have hframe : frameOf (.object []) =
      .ok ([67] ++ Utf8.encode "ontent-Length: 2\r\n\r\n\x7b\x7d".toList) :=
    frameOf_eq_ok.mpr ⟨rfl, rfl, by decide +kernel, by decide +kernel⟩
  obtain ⟨e, he⟩ := h (.object []) [67] _ rfl hframe (by decide) (by decide)
  have hended : next true [67] = .ended := rfl
  rw [hended] at he
  cases he

end CodeAtlas.Wire
