import CodeAtlas.Text.Numeral
import Mathlib.Data.List.Basic
import Mathlib.Data.List.TakeWhile

namespace CodeAtlas.Text.Numeral

open Nat (toDigits)

theorem isAsciiDigit_of_mem {n : Nat} {c : Char} (h : c ∈ toDigits 10 n) :
    isAsciiDigit c = true := by
  have hd := Nat.isDigit_of_mem_toDigits (by decide) (by decide) h
  simp only [Char.isDigit, Bool.and_eq_true, decide_eq_true_eq] at hd
  simp only [isAsciiDigit, Bool.and_eq_true, decide_eq_true_eq]
  exact hd

theorem digitsValue_toDigits (n : Nat) : digitsValue (toDigits 10 n) = n := by
  have h := Nat.ofDigitChars_toDigits (b := 10) (n := n) (by decide) (by decide)
  simpa [digitsValue, Nat.ofDigitChars, Nat.mul_comm] using h

theorem length_toDigits_le_of_not_le {n k : Nat} (hk : 0 < k) (h : ¬ Binary64.tenTo k ≤ n) :
    (toDigits 10 n).length ≤ k :=
  (Nat.length_toDigits_le_iff (by decide) hk).mpr (Nat.lt_of_not_le h)

theorem length_toDigits_le {n : Int} (h : isLong n = false) :
    (toDigits 10 n.natAbs).length ≤ maxDigits :=
  length_toDigits_le_of_not_le (by decide) (of_decide_eq_false h)

theorem exists_digit (n : Nat) : ∃ c rest, toDigits 10 n = c :: rest ∧ isAsciiDigit c = true := by
  obtain ⟨c, rest, h⟩ := List.exists_cons_of_ne_nil (Nat.toDigits_ne_nil (n := n) (b := 10))
  exact ⟨c, rest, h, isAsciiDigit_of_mem (n := n) (by simp [h])⟩

theorem head_toDigits {n : Nat} (h : 0 < n) : ∀ rest, toDigits 10 n ≠ '0' :: rest := by
  induction n using Nat.strongRecOn with
  | ind n ih =>
      intro rest
      rw [Nat.toDigits_eq_if (by decide)]
      split
      next hn =>
        intro he
        have hdigit : ∀ d < 10, 0 < d → d.digitChar ≠ '0' := by decide
        exact hdigit n hn h (List.cons.inj he).1
      next hn =>
        obtain ⟨c, tail, hc, -⟩ := exists_digit (n / 10)
        have hhead := ih (n / 10) (by omega) (by omega) tail
        intro he
        rw [hc, List.cons_append] at he
        rw [hc, (List.cons.inj he).1] at hhead
        exact hhead rfl

theorem trim_eq {blank : Char → Bool} {before text after : List Char}
    (hbefore : ∀ c ∈ before, blank c = true) (htext : ∀ c ∈ text, blank c = false)
    (hafter : ∀ c ∈ after, blank c = true) : trim blank (before ++ text ++ after) = text := by
  have hdrop {pre rest : List Char} (hpre : ∀ c ∈ pre, blank c = true)
      (hrest : ∀ c ∈ rest.head?, blank c = false) : (pre ++ rest).dropWhile blank = rest := by
    rw [List.dropWhile_append_of_pos hpre]
    cases rest with
    | nil => rfl
    | cons c rest => exact List.dropWhile_cons_of_neg (by simp [hrest c rfl])
  cases text with
  | nil =>
      have hall : ∀ c ∈ before ++ after, blank c = true := List.forall_mem_append.mpr ⟨hbefore, hafter⟩
      have hnil : (before ++ after).dropWhile blank = [] := by
        simpa using hdrop hall fun c (hc : c ∈ [].head?) => absurd hc (by simp)
      simp only [trim, List.append_nil, hnil]
      rfl
  | cons c text =>
      have hhead := htext c List.mem_cons_self
      rw [trim, List.append_assoc, hdrop hbefore (by simpa using hhead), List.reverse_append,
        hdrop (by simpa using hafter), List.reverse_reverse]
      intro last hlast
      exact htext last (List.mem_reverse.mp (List.mem_of_mem_head? hlast))

theorem trim_append {blank : Char → Bool} (text : List Char) {after : List Char}
    (hafter : ∀ c ∈ after, blank c = true) : trim blank (text ++ after) = trim blank text := by
  rw [trim, trim, List.dropWhile_append]
  split
  next hnone =>
    have hall : after.dropWhile blank = [] := List.dropWhile_eq_nil_iff.mpr hafter
    rw [hall, List.isEmpty_iff.mp hnone]
  next =>
    rw [List.reverse_append, List.dropWhile_append_of_pos fun c hc => hafter c (List.mem_reverse.mp hc)]

theorem toNat_of_isAsciiDigit {c : Char} (h : isAsciiDigit c = true) :
    48 ≤ c.toNat ∧ c.toNat ≤ 57 := by
  simp only [isAsciiDigit, Bool.and_eq_true, decide_eq_true_eq] at h
  exact h

theorem isBlank_of_isAsciiDigit {c : Char} (h : isAsciiDigit c = true) : isBlank c = false := by
  have hc := toNat_of_isAsciiDigit h
  rw [isBlank, if_pos (by omega)]
  simp only [inRanges, List.any_cons, List.any_nil, Bool.or_false, Bool.or_eq_false_iff,
    Bool.and_eq_false_iff, decide_eq_false_iff_not]
  omega

theorem plainDigit_of_isAsciiDigit {c : Char} (h : isAsciiDigit c = true) : plainDigit c = c := by
  have hc := toNat_of_isAsciiDigit h
  have hrange : '0' ≤ c ∧ c ≤ '9' := by simpa [isAsciiDigit] using h
  have hback : 48 + (c.toNat - 48) = c.toNat := by omega
  simp only [plainDigit, digitValue?, if_pos hrange, if_pos (show c.toNat < 128 by omega), hback,
    Char.ofNat_toNat]

theorem digits?_eq_some {digits : List Char} (hne : digits ≠ [])
    (h : ∀ c ∈ digits, isAsciiDigit c = true) : digits? digits = some digits := by
  induction digits with
  | nil => exact absurd rfl hne
  | cons c rest ih =>
      have hc := h c List.mem_cons_self
      cases rest with
      | nil => rw [digits?, if_pos hc]
      | cons d rest =>
          have hd : d ≠ '_' := by
            rintro rfl
            exact absurd (h '_' (by simp)) (by decide)
          rw [digits?, if_pos hc, ih (by simp) fun x hx => h x (List.mem_cons_of_mem _ hx)]
          · rfl
          · simp
          · intro tail he
            exact hd (List.cons.inj he).1

theorem signOf_digit {c : Char} (h : isAsciiDigit c = true) (rest : List Char) :
    signOf (c :: rest) = (false, c :: rest) := by
  rw [signOf] <;> intro tail he <;> rw [(List.cons.inj he).1] at h <;> exact absurd h (by decide)

theorem readInteger_digits {digits : List Char} (hne : digits ≠ [])
    (hdigits : ∀ c ∈ digits, isAsciiDigit c = true) (hshort : digits.length ≤ maxDigits) :
    readInteger digits = .ok (digitsValue digits) := by
  have hlinked : ∀ c ∈ digits, isDigitOrLink c = true := fun c hc => by
    simp [isDigitOrLink, hdigits c hc]
  have htrim : trim isPadding digits = digits := by
    have hpadding : ∀ c ∈ digits, isPadding c = false := fun c hc => by
      simp [isPadding, isBlank_of_isAsciiDigit (hdigits c hc)]
    have hnone : ∀ c ∈ ([] : List Char), isPadding c = true := fun c hc => absurd hc (by simp)
    simpa using trim_eq hnone hpadding hnone
  have hplain : digits.map plainDigit = digits :=
    (List.map_congr_left fun c hc => plainDigit_of_isAsciiDigit (hdigits c hc)).trans (List.map_id _)
  have hsign : signOf digits = (false, digits) := by
    obtain ⟨c, rest, rfl⟩ := List.exists_cons_of_ne_nil hne
    rw [signOf_digit (hdigits c List.mem_cons_self)]
  have hrun : digits.takeWhile isDigitOrLink = digits := List.takeWhile_eq_self_iff.mpr hlinked
  have hwhole : digits.any (!isDigitOrLink ·) = false := by simpa using hlinked
  rw [readInteger, htrim, hplain, hsign]
  simp only [hrun, digits?_eq_some hne hdigits, hwhole, if_neg (Nat.not_lt.mpr hshort)]
  rfl

theorem readInteger_toDigits {n : Nat} (h : isLong n = false) :
    readInteger (toDigits 10 n) = .ok n := by
  have hshort : (toDigits 10 n).length ≤ maxDigits := length_toDigits_le h
  rw [readInteger_digits Nat.toDigits_ne_nil (fun c => isAsciiDigit_of_mem) hshort,
    digitsValue_toDigits]

end CodeAtlas.Text.Numeral
