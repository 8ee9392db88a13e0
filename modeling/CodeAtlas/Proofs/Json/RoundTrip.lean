import CodeAtlas.Json.Reader
import CodeAtlas.Json.Writer
import CodeAtlas.Proofs.Text.Numeral
import CodeAtlas.Proofs.Text.Units
import Mathlib.Data.List.Basic

namespace CodeAtlas.Json

open Text Text.Numeral Text.Units

/-- Values of null, truth values, integers, texts, lists and objects that
have no key twice. -/
inductive Plain : Json → Prop
  | null : Plain .null
  | bool (b : Bool) : Plain (.bool b)
  | int (n : Int) : Plain (.int n)
  | text (s : String) : Plain (.text s)
  | list {items : List Json} (each : ∀ v ∈ items, Plain v) : Plain (.list items)
  | object {fields : List (String × Json)} (distinct : (fields.map Prod.fst).Nodup)
      (each : ∀ f ∈ fields, Plain f.2) : Plain (.object fields)

theorem allItems_iff {test : Json → Bool} {items : List Json} :
    allItems test items = true ↔ ∀ v ∈ items, v.all test = true := by
  induction items with
  | nil => simp [allItems]
  | cons v rest ih => simp [allItems, ih]

theorem allFields_iff {test : Json → Bool} {fields : List (String × Json)} :
    allFields test fields = true ↔ ∀ f ∈ fields, f.2.all test = true := by
  induction fields with
  | nil => simp [allFields]
  | cons f rest ih => simp [allFields, ih]

theorem Plain.isEncodable {j : Json} (h : Plain j) : j.isEncodable = true := by
  induction h with
  | null | bool | int | text => rfl
  | list _ ih => exact Bool.and_eq_true_iff.mpr ⟨rfl, allItems_iff.mpr ih⟩
  | object _ _ ih => exact Bool.and_eq_true_iff.mpr ⟨rfl, allFields_iff.mpr ih⟩

theorem isShort_list {items : List Json} :
    (Json.list items).isShort = true ↔ ∀ v ∈ items, v.isShort = true := by
  simp [isShort, all, allItems_iff]

theorem isShort_object {fields : List (String × Json)} :
    (Json.object fields).isShort = true ↔ ∀ f ∈ fields, f.2.isShort = true := by
  simp [isShort, all, allFields_iff]

theorem ofPoints_chars (s : String) : ofPoints (s.toList.map Char.toNat) = .text s := by
  have hnone : (s.toList.map Char.toNat).any Units.isSurrogate = false := by
    simp [not_isSurrogate]
  rw [ofPoints, hnone, if_neg Bool.false_ne_true, map_character_chars, String.ofList_toList]

namespace Reader

open Nat (toDigits)
open Writer (escape compact compactItems compactFields)

theorem hexQuad?_unit : ∀ n < 32, ∃ a b c d, Writer.unit n = ['\\', 'u', a, b, c, d] ∧
    hexQuad? a b c d = some n := by
  intro n hn
  have h : ∀ n < 32, Writer.unit n = ['\\', 'u', '0', '0', (n / 16).digitChar, (n % 16).digitChar] ∧
      hexQuad? '0' '0' (n / 16).digitChar (n % 16).digitChar = some n := by decide
  exact ⟨_, _, _, _, h n hn⟩

theorem units_plain {c : Char} (hq : c ≠ '"') (hb : c ≠ '\\') (hc : ¬ c.toNat < 32)
    (rest : List Char) :
    units (c :: rest) = (units rest).map fun r => (c.toNat :: r.1, r.2) := by
  rw [units.eq_def]
  split
  · simp_all
  · simp_all
  · simp_all
  · simp_all
  next heq =>
    obtain ⟨rfl, rfl⟩ := List.cons.inj heq
    rw [if_neg (not_or.mpr ⟨hc, hb⟩)]

theorem units_escape (c : Char) (rest : List Char) :
    units (escape false c ++ rest) = (units rest).map fun r => (c.toNat :: r.1, r.2) := by
  by_cases hshort : c ∈ ['"', '\\', '\n', '\r', '\t', '\x08', '\x0c']
  · simp only [List.mem_cons, List.not_mem_nil, or_false] at hshort
    rcases hshort with rfl | rfl | rfl | rfl | rfl | rfl | rfl <;> rfl
  · simp only [List.mem_cons, List.not_mem_nil, or_false, not_or] at hshort
    obtain ⟨hq, hb, hn, hr, ht, hbs, hff⟩ := hshort
    unfold escape
    rw [if_neg hq, if_neg hb, if_neg hn, if_neg hr, if_neg ht, if_neg hbs, if_neg hff]
    by_cases hc : c.toNat < 32
    · obtain ⟨x, y, z, w, hu, hv⟩ := hexQuad?_unit c.toNat hc
      rw [if_pos hc, hu]
      simp only [List.cons_append, List.nil_append, units, hv]
    · rw [if_neg hc, Bool.false_and, if_neg Bool.false_ne_true]
      exact units_plain hq hb hc rest

theorem units_chars (text rest : List Char) :
    units (text.flatMap (escape false) ++ '"' :: rest) = .ok (text.map Char.toNat, rest) := by
  induction text with
  | nil => rfl
  | cons c text ih =>
      rw [List.flatMap_cons, List.append_assoc, units_escape, ih]
      rfl

theorem string_written (s : String) (rest : List Char) :
    string (s.toList.flatMap (escape false) ++ '"' :: rest) = .ok (.text s, rest) := by
  rw [string, units_chars]
  simp only [Except.map, points_chars, ofPoints_chars]

theorem key_written (s : String) (rest : List Char) :
    key (s.toList.flatMap (escape false) ++ '"' :: rest) = .ok (s, rest) := by
  rw [key, units_chars]
  simp only [Except.map, points_chars, map_character_chars, String.ofList_toList]

/-- What may follow a value within another one or at the end of the text. -/
def Closes (rest : List Char) : Prop := ∀ c ∈ rest.head?, c = ',' ∨ c = ']' ∨ c = '\x7d'

theorem written_natCast (n : Nat) : (toString (n : Int)).toList = toDigits 10 n := by
  have h : toString (n : Int) = Nat.repr n := rfl
  rw [h, Nat.toList_repr]

theorem written_neg (n : Nat) : (toString (Int.negSucc n)).toList = '-' :: toDigits 10 (n + 1) := by
  have h : toString (Int.negSucc n) = "-" ++ Nat.repr (n + 1) := rfl
  rw [h, String.toList_append, Nat.toList_repr]
  rfl

theorem Closes.no_digit {rest : List Char} (h : Closes rest) :
    rest.takeWhile isAsciiDigit = [] ∧ rest.dropWhile isAsciiDigit = rest := by
  cases rest with
  | nil => exact ⟨rfl, rfl⟩
  | cons c rest =>
      have hc : isAsciiDigit c = false := by
        obtain rfl | rfl | rfl := h c rfl <;> rfl
      simp [hc]

theorem wholePart_written (n : Nat) {rest : List Char} (h : Closes rest) :
    wholePart (toDigits 10 n ++ rest) = some (toDigits 10 n, rest) := by
  obtain rfl | hn := Nat.eq_zero_or_pos n
  · rfl
  · have hdigits : ∀ c ∈ toDigits 10 n, isAsciiDigit c = true := fun c => isAsciiDigit_of_mem
    rw [wholePart]
    · rw [List.takeWhile_append_of_pos hdigits, List.dropWhile_append_of_pos hdigits, h.no_digit.1,
        h.no_digit.2, List.append_nil]
      simp [Nat.toDigits_ne_nil]
    · intro tail he
      obtain ⟨c, digits, hc, -⟩ := exists_digit n
      rw [hc, List.cons_append] at he
      rw [(List.cons.inj he).1] at hc
      exact head_toDigits hn digits hc

theorem Closes.whole {rest : List Char} (h : Closes rest) :
    fractionPart rest = ([], rest) ∧ exponentPart rest = (none, rest) := by
  cases rest with
  | nil => exact ⟨rfl, rfl⟩
  | cons c rest => obtain rfl | rfl | rfl := h c rfl <;> exact ⟨rfl, rfl⟩

theorem number_written {n : Int} (hn : isLong n = false) {rest : List Char} (h : Closes rest) :
    number ((toString n).toList ++ rest) = .ok (.int n, rest) := by
  have hlen : ¬ maxDigits < (toDigits 10 n.natAbs).length := Nat.not_lt.mpr (length_toDigits_le hn)
  cases n with
  | ofNat n =>
      rw [Int.ofNat_eq_natCast, Int.natAbs_natCast] at hlen
      rw [Int.ofNat_eq_natCast, written_natCast]
      obtain ⟨c, digits, hc, hd⟩ := exists_digit n
      have hsign : c ≠ '-' := by
        rintro rfl
        exact absurd hd (by decide)
      unfold number
      split
      next negative body heq =>
        obtain ⟨rfl, rfl⟩ : negative = false ∧ body = toDigits 10 n ++ rest := by
          rw [hc, List.cons_append] at heq ⊢
          split at heq
          next hminus => exact absurd (List.cons.inj hminus).1 hsign
          next => exact ⟨(Prod.mk.inj heq).1.symm, (Prod.mk.inj heq).2.symm⟩
        simp only [wholePart_written n h, h.whole, digitsValue_toDigits]
        rw [if_pos ⟨rfl, rfl⟩, if_neg hlen]
        rfl
  | negSucc n =>
      rw [Int.natAbs_negSucc] at hlen
      rw [written_neg]
      unfold number
      simp only [List.cons_append, wholePart_written _ h, h.whole]
      simp only [digitsValue_toDigits]
      rw [if_pos ⟨rfl, rfl⟩, if_neg hlen]
      rfl

/-- A written value starts with no blank and with no closing bracket. -/
def Opens (s : List Char) : Prop := ∃ c rest, s = c :: rest ∧ isSpace c = false ∧ c ≠ ']' ∧ c ≠ '\x7d'

theorem Opens.append {s : List Char} (h : Opens s) (rest : List Char) : Opens (s ++ rest) := by
  obtain ⟨c, tail, rfl, hc⟩ := h
  exact ⟨c, tail ++ rest, rfl, hc⟩

theorem Opens.skip {s : List Char} (h : Opens s) : skip s = s := by
  obtain ⟨c, tail, rfl, hc, -⟩ := h
  simp [Reader.skip, hc]

theorem opens_digits (n : Nat) : Opens (toDigits 10 n) := by
  obtain ⟨c, digits, hc, hd⟩ := exists_digit n
  refine ⟨c, digits, hc, ?_⟩
  refine ⟨?_, ?_, ?_⟩
  · by_contra hs
    simp only [isSpace, Bool.not_eq_false, Bool.or_eq_true, beq_iff_eq] at hs
    rcases hs with ((rfl | rfl) | rfl) | rfl <;> exact absurd hd (by decide)
  · rintro rfl
    exact absurd hd (by decide)
  · rintro rfl
    exact absurd hd (by decide)

theorem opens_compact {j : Json} (h : Plain j) : Opens (compact j) := by
  cases h with
  | null => exact ⟨_, _, rfl, by decide⟩
  | bool b => cases b <;> exact ⟨_, _, rfl, by decide⟩
  | int n =>
      rw [compact, Writer.scalar]
      · cases n with
        | ofNat n => exact written_natCast n ▸ opens_digits n
        | negSucc n => exact ⟨'-', _, written_neg n, by decide⟩
      all_goals simp
  | text s => exact ⟨'"', _, rfl, by decide⟩
  | list => exact ⟨'[', _, by rw [compact, List.cons_append], by decide⟩
  | object => exact ⟨'\x7b', _, by rw [compact, List.cons_append], by decide⟩

/-- With fuel for its length a value is read off the front of a text. -/
def Recovered (j : Json) : Prop := ∀ fuel rest, (compact j).length ≤ fuel → Closes rest →
  value fuel (compact j ++ rest) = .ok (j, rest)

theorem recovered_of_succ {j : Json} (h : Plain j)
    (hread : ∀ fuel rest, (compact j).length ≤ fuel + 1 → Closes rest →
      value (fuel + 1) (compact j ++ rest) = .ok (j, rest)) : Recovered j := by
  intro fuel rest hfuel hrest
  cases fuel with
  | zero =>
      obtain ⟨c, tail, hc, -⟩ := opens_compact h
      simp [hc] at hfuel
  | succ fuel => exact hread fuel rest hfuel hrest

theorem compact_int (n : Int) : compact (.int n) = (toString n).toList := by
  rw [compact, Writer.scalar]
  all_goals simp

theorem value_digit {c : Char} (hd : isAsciiDigit c = true) (fuel : Nat) (s : List Char) :
    value (fuel + 1) (c :: s) = number (c :: s) := by
  rw [value] <;> intro tail heq <;> rw [(List.cons.inj heq).1] at hd <;> exact absurd hd (by decide)

theorem value_minus {c : Char} (hd : isAsciiDigit c = true) (fuel : Nat) (s : List Char) :
    value (fuel + 1) ('-' :: c :: s) = number ('-' :: c :: s) := by
  rw [value] <;> intro tail heq <;>
    simp only [List.cons.injEq, Char.reduceEq, false_and, true_and] at heq
  rw [heq.1] at hd
  exact absurd hd (by decide)

theorem value_int (fuel : Nat) (n : Int) (rest : List Char) :
    value (fuel + 1) ((toString n).toList ++ rest) = number ((toString n).toList ++ rest) := by
  cases n with
  | ofNat n =>
      obtain ⟨c, digits, hc, hd⟩ := exists_digit n
      rw [Int.ofNat_eq_natCast, written_natCast, hc]
      exact value_digit hd fuel (digits ++ rest)
  | negSucc n =>
      obtain ⟨c, digits, hc, hd⟩ := exists_digit (n + 1)
      rw [written_neg, hc]
      exact value_minus hd fuel (digits ++ rest)

theorem recovered_int {n : Int} (hn : isLong n = false) : Recovered (.int n) := by
  refine recovered_of_succ (.int n) fun fuel rest _ hrest => ?_
  rw [compact_int, value_int, number_written hn hrest]

theorem recovered_text (s : String) : Recovered (.text s) := by
  refine recovered_of_succ (.text s) fun fuel rest _ _ => ?_
  have hwritten : compact (.text s) ++ rest =
      '"' :: (s.toList.flatMap (escape false) ++ '"' :: rest) := by
    simp [compact, Writer.scalar, Writer.string]
  rw [hwritten, value, string_written]

theorem compactItems_cons (v w : Json) (rest : List Json) :
    compactItems (v :: w :: rest) = compact v ++ ',' :: compactItems (w :: rest) := by
  rw [compactItems]
  simp

theorem compactFields_cons (f g : String × Json) (rest : List (String × Json)) :
    compactFields (f :: g :: rest) =
      Writer.string false f.1 ++ ':' :: compact f.2 ++ ',' :: compactFields (g :: rest) := by
  rw [compactFields]
  simp

theorem opens_compactItems {v : Json} (h : Plain v) (rest : List Json) :
    Opens (compactItems (v :: rest)) := by
  cases rest with
  | nil => exact opens_compact h
  | cons w rest => exact compactItems_cons v w rest ▸ (opens_compact h).append _

theorem opens_compactFields (f : String × Json) (rest : List (String × Json)) :
    Opens (compactFields (f :: rest)) := by
  cases rest with
  | nil => exact ⟨'"', _, rfl, by decide⟩
  | cons g rest => exact compactFields_cons f g rest ▸ ⟨'"', _, rfl, by decide⟩

theorem skip_cons {c : Char} (h : isSpace c = false) (rest : List Char) :
    skip (c :: rest) = c :: rest := by
  rw [skip, List.dropWhile_cons_of_neg (by simp [h])]

theorem elements_written {items : List Json} (hne : items ≠ [])
    (hplain : ∀ v ∈ items, Plain v) (hread : ∀ v ∈ items, Recovered v) :
    ∀ fuel rest, (compactItems items).length < fuel →
      elements fuel (compactItems items ++ ']' :: rest) = .ok (items, rest) := by
  induction items with
  | nil => exact absurd rfl hne
  | cons v later ih =>
      intro fuel rest hfuel
      obtain ⟨fuel, rfl⟩ : ∃ k, fuel = k + 1 := ⟨fuel - 1, by omega⟩
      have hv := hread v List.mem_cons_self
      cases later with
      | nil =>
          rw [compactItems] at hfuel ⊢
          rw [elements, hv fuel _ (by omega) (by simp [Closes])]
          rfl
      | cons w later =>
          have hlater := ih (by simp) (fun u hu => hplain u (List.mem_cons_of_mem _ hu))
            (fun u hu => hread u (List.mem_cons_of_mem _ hu))
          have hopens : Opens (compactItems (w :: later)) := opens_compactItems (hplain w (by simp)) _
          rw [compactItems_cons, List.length_append, List.length_cons] at hfuel
          rw [compactItems_cons, List.append_assoc, List.cons_append, elements,
            hv fuel _ (by omega) (by simp [Closes])]
          simp only [skip_cons (c := ',') rfl, (hopens.append _).skip]
          rw [hlater fuel rest (by omega)]
          rfl

theorem members_written {fields : List (String × Json)} (hne : fields ≠ [])
    (hplain : ∀ f ∈ fields, Plain f.2) (hread : ∀ f ∈ fields, Recovered f.2) :
    ∀ fuel rest, (compactFields fields).length < fuel →
      members fuel (compactFields fields ++ '\x7d' :: rest) = .ok (fields, rest) := by
  induction fields with
  | nil => exact absurd rfl hne
  | cons f later ih =>
      intro fuel rest hfuel
      obtain ⟨fuel, rfl⟩ : ∃ k, fuel = k + 1 := ⟨fuel - 1, by omega⟩
      obtain ⟨name, v⟩ := f
      have hv : Recovered v := hread (name, v) List.mem_cons_self
      have hopens : Opens (compact v) := opens_compact (hplain (name, v) List.mem_cons_self)
      cases later with
      | nil =>
          have hwritten : compactFields [(name, v)] ++ '\x7d' :: rest =
              '"' :: (name.toList.flatMap (escape false) ++
                '"' :: ':' :: (compact v ++ '\x7d' :: rest)) := by
            simp [compactFields, Writer.string]
          have hlength : (compact v).length ≤ fuel := by
            simp only [compactFields, List.length_append, List.length_cons] at hfuel
            omega
          rw [hwritten, members, key_written]
          simp only [skip_cons (c := ':') rfl, (hopens.append _).skip]
          rw [hv fuel _ hlength (by simp [Closes])]
          rfl
      | cons g later =>
          have hlater := ih (by simp) (fun u hu => hplain u (List.mem_cons_of_mem _ hu))
            (fun u hu => hread u (List.mem_cons_of_mem _ hu))
          have hwritten : compactFields ((name, v) :: g :: later) ++ '\x7d' :: rest =
              '"' :: (name.toList.flatMap (escape false) ++ '"' :: ':' ::
                (compact v ++ ',' :: (compactFields (g :: later) ++ '\x7d' :: rest))) := by
            simp [compactFields_cons, Writer.string]
          have hlength : (compact v).length + (compactFields (g :: later)).length < fuel := by
            simp only [compactFields_cons, List.length_append, List.length_cons] at hfuel
            omega
          rw [hwritten, members, key_written]
          simp only [skip_cons (c := ':') rfl, (hopens.append _).skip]
          rw [hv fuel _ (by omega) (by simp [Closes])]
          simp only [skip_cons (c := ',') rfl, ((opens_compactFields g later).append _).skip]
          rw [hlater fuel rest (by omega)]
          rfl

theorem recovered_list {items : List Json} (hplain : ∀ v ∈ items, Plain v)
    (hread : ∀ v ∈ items, Recovered v) : Recovered (.list items) := by
  refine recovered_of_succ (.list hplain) fun fuel rest hfuel _ => ?_
  rw [compact, List.length_append, List.length_cons, List.length_singleton] at hfuel
  rw [compact, List.cons_append, List.cons_append, List.append_assoc, List.singleton_append, value]
  cases items with
  | nil => rfl
  | cons v later =>
      have hopens := (opens_compactItems (hplain v List.mem_cons_self) later).append (']' :: rest)
      have hitems := elements_written (List.cons_ne_nil v later) hplain hread fuel rest (by omega)
      rw [hopens.skip]
      obtain ⟨c, tail, hc, -, hbracket, -⟩ := hopens
      split
      next heq => exact absurd (List.cons.inj (hc.symm.trans heq)).1 hbracket
      next => rw [hitems]; rfl

theorem setField_fresh {key : String} {v : Json} {fields : List (String × Json)}
    (h : key ∉ fields.map Prod.fst) : setField key v fields = fields ++ [(key, v)] := by
  induction fields with
  | nil => rfl
  | cons f rest ih =>
      rw [List.map_cons, List.mem_cons, not_or] at h
      rw [setField, if_neg (Ne.symm h.1), ih h.2, List.cons_append]

theorem ofFields_eq {fields : List (String × Json)} (h : (fields.map Prod.fst).Nodup) :
    ofFields fields = fields := by
  suffices hfold : ∀ done, ((done ++ fields).map Prod.fst).Nodup →
      fields.foldl (fun done f => setField f.1 f.2 done) done = done ++ fields from hfold [] h
  clear h
  induction fields with
  | nil => simp
  | cons f rest ih =>
      intro done h
      have hfresh : f.1 ∉ done.map Prod.fst := by
        intro hm
        rw [List.map_append, List.nodup_append] at h
        exact h.2.2 _ hm f.1 (by simp) rfl
      rw [List.foldl_cons, setField_fresh hfresh, ih]
      · simp
      · simpa using h

theorem recovered_object {fields : List (String × Json)} (distinct : (fields.map Prod.fst).Nodup)
    (hplain : ∀ f ∈ fields, Plain f.2) (hread : ∀ f ∈ fields, Recovered f.2) :
    Recovered (.object fields) := by
  refine recovered_of_succ (.object distinct hplain) fun fuel rest hfuel _ => ?_
  rw [compact, List.length_append, List.length_cons, List.length_singleton] at hfuel
  rw [compact, List.cons_append, List.cons_append, List.append_assoc, List.singleton_append, value]
  cases fields with
  | nil => rfl
  | cons f later =>
      have hopens := (opens_compactFields f later).append ('\x7d' :: rest)
      have hfields := members_written (List.cons_ne_nil f later) hplain hread fuel rest (by omega)
      rw [hopens.skip]
      obtain ⟨c, tail, hc, -, -, hbrace⟩ := hopens
      split
      next heq => exact absurd (List.cons.inj (hc.symm.trans heq)).1 hbrace
      next =>
        rw [hfields]
        simp only [Except.map, ofFields_eq distinct]

theorem recovered_null : Recovered .null := recovered_of_succ .null fun _ _ _ _ => rfl

theorem recovered_bool (b : Bool) : Recovered (.bool b) :=
  recovered_of_succ (.bool b) fun _ _ _ _ => by cases b <;> rfl

end Reader

open Reader

theorem Plain.recovered {j : Json} (h : Plain j) (hs : j.isShort = true) : Recovered j := by
  induction h with
  | null => exact recovered_null
  | bool b => exact recovered_bool b
  | int n => exact recovered_int (by simpa [isShort, all] using hs)
  | text s => exact recovered_text s
  | list each ih => exact recovered_list each fun v hv => ih v hv (isShort_list.mp hs v hv)
  | object distinct each ih =>
      exact recovered_object distinct each fun f hf => ih f hf (isShort_object.mp hs f hf)

theorem read_compact {j : Json} (h : Plain j) (hs : j.isShort = true) :
    read (Writer.compact j) = .ok j := by
  have hread := h.recovered hs ((Writer.compact j).length + 1) [] (by omega) (by simp [Closes])
  rw [List.append_nil] at hread
  rw [Reader.read, (opens_compact h).skip, hread]
  rfl

end CodeAtlas.Json
