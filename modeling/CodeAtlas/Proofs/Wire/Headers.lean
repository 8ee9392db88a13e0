import CodeAtlas.Proofs.Wire.Framing

namespace CodeAtlas.Wire

open Text Text.Numeral

/-- A line of a header without its line feed. It may end with a carriage
return, and is not blank. -/
structure IsHeaderLine (line : List Char) : Prop where
  ascii : ∀ c ∈ line, c.toNat < 128
  whole : '\n' ∉ line
  ne_nil : line ≠ []
  ne_return : line ≠ ['\r']

instance (line : List Char) : Decidable (IsHeaderLine line) :=
  decidable_of_iff (line.all (fun c => c.toNat < 128) = true ∧ '\n' ∉ line ∧ line ≠ [] ∧
      line ≠ ['\r']) <| by
    simp only [List.all_eq_true, decide_eq_true_eq]
    exact ⟨fun h => ⟨h.1, h.2.1, h.2.2.1, h.2.2.2⟩,
      fun h => ⟨h.ascii, h.whole, h.ne_nil, h.ne_return⟩⟩

def lineBytes (line : List Char) : List UInt8 := Utf8.encode (line ++ ['\n'])

/-- Whether a text is the name of lengths, in any case and with any blanks
around it. -/
def IsLengthName (name : List Char) : Prop := lowered (trim isBlank name) = lengthName

instance (name : List Char) : Decidable (IsLengthName name) :=
  inferInstanceAs (Decidable (lowered (trim isBlank name) = lengthName))

/-- The line has the name of lengths before its first colon, and the value
after it. -/
def Gives (line value : List Char) : Prop :=
  ∃ name, line = name ++ ':' :: value ∧ ':' ∉ name ∧ IsLengthName name

theorem gives_iff {line value : List Char} : Gives line value ↔
    ':' ∈ line ∧ IsLengthName (line.takeWhile (· ≠ ':')) ∧
      value = (line.dropWhile (· ≠ ':')).drop 1 := by
  constructor
  · rintro ⟨name, rfl, hcolon, hname⟩
    rw [(cut_colon hcolon value).1, (cut_colon hcolon value).2]
    exact ⟨by simp, hname, rfl⟩
  · rintro ⟨hcolon, hname, rfl⟩
    obtain ⟨name, value, rfl, hfirst⟩ := List.eq_append_cons_of_mem hcolon
    rw [(cut_colon hfirst value).1] at hname
    rw [(cut_colon hfirst value).2]
    exact ⟨name, rfl, hfirst, hname⟩

instance (line value : List Char) : Decidable (Gives line value) :=
  decidable_of_iff _ gives_iff.symm

theorem trim_lineFeed (text : List Char) : trim isBlank (text ++ ['\n']) = trim isBlank text :=
  trim_append text (List.forall_mem_singleton.mpr rfl)

theorem IsHeaderLine.lengthAfter_lineBytes {line : List Char} (h : IsHeaderLine line)
    (known : Option Int) :
    lengthAfter known (lineBytes line) =
      if lowered (splitHeader (line ++ ['\n'])).1 = lengthName then
        (integerOf (splitHeader (line ++ ['\n'])).2).map some
      else .ok known := by
  have hascii : ∀ c ∈ line ++ ['\n'], c.toNat < 128 :=
    List.forall_mem_append.mpr ⟨h.ascii, by simp⟩
  rw [lineBytes, lengthAfter_ascii hascii]

theorem lengthAfter_gives {line value : List Char} (h : IsHeaderLine line) (hg : Gives line value)
    (known : Option Int) :
    lengthAfter known (lineBytes line) = (integerOf (trim isBlank value)).map some := by
  obtain ⟨name, rfl, hcolon, hname⟩ := hg
  rw [h.lengthAfter_lineBytes, List.append_assoc, List.cons_append, splitHeader_colon hcolon,
    trim_lineFeed]
  exact if_pos hname

theorem lengthAfter_other {line : List Char} (h : IsHeaderLine line)
    (hother : ∀ value, ¬ Gives line value) (hbare : ':' ∉ line → ¬ IsLengthName line)
    (known : Option Int) : lengthAfter known (lineBytes line) = .ok known := by
  rw [h.lengthAfter_lineBytes, if_neg]
  by_cases hcolon : ':' ∈ line
  · obtain ⟨name, value, rfl, hfirst⟩ := List.eq_append_cons_of_mem hcolon
    rw [List.append_assoc, List.cons_append, splitHeader_colon hfirst]
    exact fun hname => hother value ⟨name, rfl, hfirst, hname⟩
  · rw [splitHeader_bare (by simpa using hcolon), trim_lineFeed]
    exact hbare hcolon

theorem lineBytes_eq (line : List Char) : lineBytes line = Utf8.encode line ++ [10] :=
  encode_append _ _

theorem isBlankLine_lineBytes {line : List Char} (h : IsHeaderLine line) :
    isBlankLine (lineBytes line) = false := by
  have hreturn : lineBytes line ≠ [13, 10] := fun heq =>
    h.ne_return (List.append_cancel_right (Utf8.encode_inj.mp (heq : _ = Utf8.encode ['\r', '\n'])))
  have hnil : lineBytes line ≠ [10] := fun heq =>
    h.ne_nil (List.append_cancel_right (Utf8.encode_inj.mp (heq : _ = Utf8.encode ([] ++ ['\n']))))
  simp [isBlankLine, hreturn, hnil]

theorem readHeader_lineBytes {line : List Char} (h : IsHeaderLine line) (closed : Bool)
    {known said : Option Int} (hsaid : lengthAfter known (lineBytes line) = .ok said)
    (rest : List UInt8) :
    readHeader closed known [] (lineBytes line ++ rest) = readHeader closed said [] rest := by
  have hblank := isBlankLine_lineBytes h
  rw [lineBytes_eq] at hsaid hblank ⊢
  rw [List.append_assoc]
  exact readHeader_said closed known (no_lineFeed h.ascii h.whole) hblank hsaid rest

def knownAfter (known : Option Int) (lines : List (List Char)) : Except Failure (Option Int) :=
  lines.foldlM (fun known line => lengthAfter known (lineBytes line)) known

theorem knownAfter_cons {known said : Option Int} {line : List Char} {lines : List (List Char)} :
    knownAfter known (line :: lines) = .ok said ↔ ∃ next,
      lengthAfter known (lineBytes line) = .ok next ∧ knownAfter next lines = .ok said := by
  rw [knownAfter, List.foldlM_cons]
  cases lengthAfter known (lineBytes line) with
  | error e => simp [bind, Except.bind]
  | ok next => simp [bind, Except.bind, knownAfter]

theorem readHeader_block {lines : List (List Char)} (h : ∀ line ∈ lines, IsHeaderLine line)
    (closed : Bool) {known said : Option Int} (hsaid : knownAfter known lines = .ok said)
    (rest : List UInt8) :
    readHeader closed known [] (lines.flatMap lineBytes ++ rest) =
      readHeader closed said [] rest := by
  induction lines generalizing known with
  | nil =>
      obtain rfl := Except.ok.inj hsaid
      rfl
  | cons line lines ih =>
      obtain ⟨hline, hlines⟩ := List.forall_mem_cons.mp h
      obtain ⟨next, hnext, hlater⟩ := knownAfter_cons.mp hsaid
      rw [List.flatMap_cons, List.append_assoc, readHeader_lineBytes hline closed hnext,
        ih hlines hlater]

/-- The lines of a header whose values are all numbers, the last of them the
length. -/
structure Declares (lines : List (List Char)) (length : Int) : Prop where
  each : ∀ line ∈ lines, IsHeaderLine line
  numbers : ∀ line ∈ lines, ∀ value, Gives line value →
    ∃ n, integerOf (trim isBlank value) = .ok n
  last : ∃ before line value after, lines = before ++ line :: after ∧ Gives line value ∧
    integerOf (trim isBlank value) = .ok length ∧ ∀ line ∈ after, ∀ value, ¬ Gives line value

section Blocks

variable {lines : List (List Char)} (each : ∀ line ∈ lines, IsHeaderLine line)
  (bare : ∀ line ∈ lines, ':' ∉ line → ¬ IsLengthName line)

include each bare

theorem exists_knownAfter (numbers : ∀ line ∈ lines, ∀ value, Gives line value →
    ∃ n, integerOf (trim isBlank value) = .ok n) (known : Option Int) :
    ∃ said, knownAfter known lines = .ok said := by
  induction lines generalizing known with
  | nil => exact ⟨known, rfl⟩
  | cons line lines ih =>
      obtain ⟨hline, hlines⟩ := List.forall_mem_cons.mp each
      obtain ⟨hbare, hbares⟩ := List.forall_mem_cons.mp bare
      obtain ⟨hnumber, hnumbers⟩ := List.forall_mem_cons.mp numbers
      have hnext : ∃ next, lengthAfter known (lineBytes line) = .ok next := by
        by_cases hg : ∃ value, Gives line value
        · obtain ⟨value, hg⟩ := hg
          obtain ⟨n, hn⟩ := hnumber value hg
          exact ⟨some n, by rw [lengthAfter_gives hline hg, hn]; rfl⟩
        · exact ⟨known, lengthAfter_other hline (not_exists.mp hg) hbare known⟩
      obtain ⟨next, hnext⟩ := hnext
      obtain ⟨said, hsaid⟩ := ih hlines hbares hnumbers next
      exact ⟨said, knownAfter_cons.mpr ⟨next, hnext, hsaid⟩⟩

theorem knownAfter_others (others : ∀ line ∈ lines, ∀ value, ¬ Gives line value)
    (known : Option Int) : knownAfter known lines = .ok known := by
  induction lines with
  | nil => rfl
  | cons line lines ih =>
      obtain ⟨hline, hlines⟩ := List.forall_mem_cons.mp each
      obtain ⟨hbare, hbares⟩ := List.forall_mem_cons.mp bare
      obtain ⟨hother, hothers⟩ := List.forall_mem_cons.mp others
      exact knownAfter_cons.mpr ⟨known, lengthAfter_other hline hother hbare known,
        ih hlines hbares hothers⟩

end Blocks

theorem knownAfter_append {known middle said : Option Int} {before after : List (List Char)}
    (hbefore : knownAfter known before = .ok middle) (hafter : knownAfter middle after = .ok said) :
    knownAfter known (before ++ after) = .ok said := by
  rw [knownAfter] at hbefore
  rw [knownAfter, List.foldlM_append, hbefore]
  exact hafter

theorem Declares.knownAfter {lines : List (List Char)} {length : Int} (h : Declares lines length)
    (bare : ∀ line ∈ lines, ':' ∉ line → ¬ IsLengthName line) (known : Option Int) :
    knownAfter known lines = .ok (some length) := by
  obtain ⟨before, line, value, after, rfl, hgives, hlength, hothers⟩ := h.last
  obtain ⟨heach, heach'⟩ := List.forall_mem_append.mp h.each
  obtain ⟨hbare, hbare'⟩ := List.forall_mem_append.mp bare
  obtain ⟨hline, hafter⟩ := List.forall_mem_cons.mp heach'
  obtain ⟨middle, hmiddle⟩ :=
    exists_knownAfter heach hbare (List.forall_mem_append.mp h.numbers).1 known
  have hsaid : lengthAfter middle (lineBytes line) = .ok (some length) := by
    rw [lengthAfter_gives hline hgives, hlength]
    rfl
  exact knownAfter_append hmiddle (knownAfter_cons.mpr ⟨some length, hsaid,
    knownAfter_others hafter (List.forall_mem_cons.mp hbare').2 hothers _⟩)

def IsBlankBytes (blank : List UInt8) : Prop := blank = [10] ∨ blank = [13, 10]

theorem readHeader_blankBytes {blank : List UInt8} (h : IsBlankBytes blank) (closed : Bool)
    (length : Int) (rest : List UInt8) :
    readHeader closed (some length) [] (blank ++ rest) = readBody closed length rest := by
  obtain rfl | rfl := h <;> rfl

/-- A body is read after any header whose last length is its own, and no byte
of what follows it. Lines that give no length do not matter, but none may be
the name of lengths without a colon. -/
theorem next_declared {lines : List (List Char)} {text : List Char} {fields : List (String × Json)}
    (hobject : Json.Reader.read text = .ok (.object fields))
    (hlines : Declares lines (Utf8.encode text).length)
    (hbare : ∀ line ∈ lines, ':' ∉ line → ¬ IsLengthName line)
    {blank : List UInt8} (hblank : IsBlankBytes blank) (closed : Bool) (rest : List UInt8) :
    next closed (lines.flatMap lineBytes ++ (blank ++ (Utf8.encode text ++ rest))) =
      .message (.object fields) rest := by
  rw [next, readHeader_block hlines.each closed (hlines.knownAfter hbare none),
    readHeader_blankBytes hblank, readBody_written closed (parseBody_encode hobject)]

/-- A header of another name, two lengths in different forms, a line that is no
header and a body that is followed by something. -/
def mixedLines : List (List Char) :=
  ["Content-Type: a:b\r".toList, "content-LENGTH\t: +7".toList, "none".toList,
    " CONTENT-LENGTH:0_2\r".toList]

theorem next_declared_mixed :
    Declares mixedLines 2 ∧
    (∀ line ∈ mixedLines, ':' ∉ line → ¬ IsLengthName line) ∧
    IsBlankBytes [13, 10] ∧
    next true (mixedLines.flatMap lineBytes ++
      ([13, 10] ++ (Utf8.encode "\x7b\x7d".toList ++ [10]))) = .message (.object []) [10] := by
  have hdeclares : Declares mixedLines 2 := by
    refine ⟨by decide, ?_, ?_⟩
    · intro line hline value hgives
      obtain ⟨hcolon, hname, rfl⟩ := gives_iff.mp hgives
      simp only [mixedLines, List.mem_cons, List.not_mem_nil, or_false] at hline
      obtain rfl | rfl | rfl | rfl := hline
      · exact absurd hname (by decide)
      · exact ⟨7, rfl⟩
      · exact absurd hcolon (by decide)
      · exact ⟨2, rfl⟩
    · exact ⟨mixedLines.take 3, " CONTENT-LENGTH:0_2\r".toList, "0_2\r".toList, [], rfl, by decide,
        rfl, by simp⟩
  have hbare : ∀ line ∈ mixedLines, ':' ∉ line → ¬ IsLengthName line := by decide
  exact ⟨hdeclares, hbare, .inr rfl, next_declared rfl hdeclares hbare (.inr rfl) true [10]⟩

/-- The name of lengths without a colon is not passed over. -/
theorem bare_name_refused : ¬ ∀ (lines : List (List Char)) (text : List Char)
    (fields : List (String × Json)) (blank : List UInt8) (closed : Bool) (rest : List UInt8),
    Json.Reader.read text = .ok (.object fields) → Declares lines (Utf8.encode text).length →
    IsBlankBytes blank →
      next closed (lines.flatMap lineBytes ++ (blank ++ (Utf8.encode text ++ rest))) =
        .message (.object fields) rest := by
  intro h
  have hdeclares : Declares ["Content-Length: 2".toList, "Content-Length".toList] 2 := by
    refine ⟨by decide, ?_, ?_⟩
    · intro line hline value hgives
      obtain ⟨hcolon, -, rfl⟩ := gives_iff.mp hgives
      simp only [List.mem_cons, List.not_mem_nil, or_false] at hline
      obtain rfl | rfl := hline
      · exact ⟨2, rfl⟩
      · exact absurd hcolon (by decide)
    · refine ⟨[], "Content-Length: 2".toList, " 2".toList, ["Content-Length".toList], rfl,
        by decide, rfl, ?_⟩
      rintro line hline value hgives
      obtain rfl := List.mem_singleton.mp hline
      exact absurd (gives_iff.mp hgives).1 (by decide)
  have hread := h _ "\x7b\x7d".toList [] [10] true [] rfl hdeclares (.inl rfl)
  have hrefused :
      next true (["Content-Length: 2".toList, "Content-Length".toList].flatMap lineBytes ++
        ([10] ++ (Utf8.encode "\x7b\x7d".toList ++ []))) =
          .broken (.refused (.badInteger "''")) := rfl
  rw [hrefused] at hread
  cases hread

end CodeAtlas.Wire
