import CodeAtlas.Proofs.Document.Order
import Mathlib.Data.List.Infix

namespace CodeAtlas.Document

/-- The lines of a text without their breaks; after a last break there is an
empty line. -/
def lines : List Char → List (List Char)
  | [] => [[]]
  | '\r' :: '\n' :: rest => [] :: lines rest
  | c :: rest => if plain c then (lines rest).modifyHead (c :: ·) else [] :: lines rest

def endOf (text : List Char) : Position :=
  ⟨(lines text).length - 1, ((lines text).getLast?.getD []).length⟩

/-- A position moved back to the end of its line, or of the text if there is
no such line. -/
def clamped (text : List Char) (p : Position) : Position :=
  match (lines text)[p.line.toNat]? with
  | some line => if p.character ≤ line.length then p else ⟨p.line, line.length⟩
  | none => endOf text

variable {text a b : List Char} {c : Char} {n : Nat} {p q : Position}

@[simp]
theorem lines_pair (a : List Char) : lines ('\r' :: '\n' :: a) = [] :: lines a := lines.eq_2 a

theorem lines_cons (h : Cut [c] a) :
    lines (c :: a) = if plain c then (lines a).modifyHead (c :: ·) else [] :: lines a := by
  apply lines.eq_3
  rintro rest rfl rfl
  exact h ⟨rfl, rfl⟩

theorem length_lines (n : Nat) (text : List Char) :
    (lines text).length = (breaks n text).length + 1 := by
  induction n, text using breaks.induct with
  | case1 n => rfl
  | case2 n rest ih => simp [ih]
  | case3 n c rest hne _ ih | case4 n c rest hne _ ih =>
      have hcut : Cut [c] rest := cut_of_unpaired hne
      rw [lines_cons hcut, breaks_cons hcut]
      cases plain c <;> simp [ih]

theorem head_lines (b : List Char) : (lines b).head? = some (b.takeWhile plain) := by
  induction b using lines.induct with
  | case1 => rfl
  | case2 rest ih => simp [plain]
  | case3 c rest hne hp ih =>
      rw [lines_cons (cut_of_unpaired hne), if_pos hp, List.head?_modifyHead, ih]
      simp [hp]
  | case4 c rest hne hp ih =>
      rw [lines_cons (cut_of_unpaired hne), if_neg hp]
      simp [hp]

theorem exists_line_cut (h : Cut a b) (n : Nat) : ∃ line,
    (lines (a ++ b))[(breaks n a).length]? = some line ∧
      lastStart n a + line.length = n + a.length + lineRest b := by
  induction n, a using breaks.induct with
  | case1 n =>
      refine ⟨b.takeWhile plain, ?_, by simp [breaks, lastStart, lineRest]⟩
      simpa [breaks, List.head?_eq_getElem?] using head_lines b
  | case2 n rest ih =>
      obtain ⟨line, hline, hlength⟩ := ih h.tail.tail
      refine ⟨line, by simpa using hline, ?_⟩
      rw [lastStart_next (breaks_pair n rest), hlength]
      simp only [List.length_cons]
      omega
  | case3 n c rest hne hb ih =>
      have hp : plain c = false := by obtain rfl | rfl := hb <;> rfl
      have hcut : Cut [c] rest := cut_of_unpaired hne
      have hbreaks : breaks n (c :: rest) = (n, n + 1) :: breaks (n + 1) rest := by
        simp [breaks_cons hcut, hp]
      obtain ⟨line, hline, hlength⟩ := ih h.tail
      refine ⟨line, ?_, ?_⟩
      · simpa [lines_cons (hcut.append h), hbreaks, hp] using hline
      · rw [lastStart_next hbreaks, hlength, List.length_cons]
        omega
  | case4 n c rest hne hb ih =>
      have hp : plain c = true := by simpa [plain] using hb
      have hcut : Cut [c] rest := cut_of_unpaired hne
      have hbreaks : breaks n (c :: rest) = breaks (n + 1) rest := by
        simp [breaks_cons hcut, hp]
      obtain ⟨line, hline, hlength⟩ := ih h.tail
      have hlines : lines (c :: (rest ++ b)) = (lines (rest ++ b)).modifyHead (c :: ·) := by
        rw [lines_cons (hcut.append h), if_pos hp]
      rw [List.cons_append, hlines, hbreaks, List.length_cons]
      -- The character belongs to the line of the cut only if no break comes between them.
      cases hcount : (breaks (n + 1) rest).length with
      | zero =>
          obtain hnone : breaks (n + 1) rest = [] := List.length_eq_zero_iff.mp hcount
          rw [hcount] at hline
          refine ⟨c :: line, by simp [hline], ?_⟩
          simp only [lastStart, hbreaks, hnone, List.getLast?_nil, Option.map_none,
            Option.getD_none, List.length_cons] at hlength ⊢
          omega
      | succ i =>
          rw [hcount] at hline
          refine ⟨line, by simpa using hline, ?_⟩
          rw [lastStart_congr hbreaks (List.ne_nil_of_length_eq_add_one hcount), hlength]
          omega

theorem positionOf_length (a b : List Char) :
    positionOf (a ++ b) a.length .origin = ⟨(breaks 0 a).length, a.length - lastStart 0 a⟩ := by
  have hhead : (a ++ b).take a.length = a := List.take_left
  have hlength : a.length ≤ (a ++ b).length := by simp
  cases hbreaks : (breaks 0 a).getLast? with
  | none =>
      have hnil : breaks 0 a = [] := List.getLast?_eq_none_iff.mp hbreaks
      rw [positionOf_of_plain hlength _ (by rw [hhead, hnil])]
      simp [hnil, lastStart, Position.origin]
  | some last =>
      rw [positionOf_of_breaks hlength _ (by rw [hhead, hbreaks]), hhead, lastStart, hbreaks]
      simp [Position.origin]

variable (text) in
theorem positionOf_clamped (hp : p.Natural) :
    ∃ k : Nat, offsetOf text p = .ok k ∧ positionOf text k .origin = clamped text p := by
  have hline : 0 ≤ p.line := hp.line
  by_cases hl : p.line ≤ (breaks 0 text).length
  · obtain ⟨a, b, rfl, hcut, ho, hat⟩ := offsetOf_line text hp hl
    obtain ⟨line, hfound, hlength⟩ := exists_line_cut hcut 0
    obtain ⟨_, character⟩ := p
    obtain rfl := hat
    refine ⟨a.length, ho, ?_⟩
    rw [offsetOf_cut hcut, Except.ok.injEq] at ho
    rw [positionOf_length, clamped, Int.toNat_natCast, hfound]
    simp only
    split <;> simp only [Position.mk.injEq, true_and] <;> omega
  · obtain ⟨line, hfound, hlength⟩ := exists_line_cut (cut_nil text) 0
    have hcount : (lines text).length = (breaks 0 text).length + 1 := length_lines 0 text
    have hnone : (lines text)[p.line.toNat]? = none := List.getElem?_eq_none (by omega)
    have hlast : (lines text).getLast? = some line := by
      rw [List.getLast?_eq_getElem?, hcount]
      simpa using hfound
    refine ⟨text.length, offsetOf_past text (by omega), ?_⟩
    have hposition := positionOf_length text []
    rw [List.append_nil] at hposition
    rw [hposition, clamped, hnone]
    simp only [endOf, hlast, hcount, Option.getD_some, Position.mk.injEq]
    simp [lineRest] at hlength
    omega

theorem slice_eq {r : Range} {i j : Nat} (hi : offsetOf text r.start = .ok i)
    (hj : offsetOf text r.stop = .ok j) :
    slice text (some r) = .ok ((text.take j).drop i) := by
  simp only [slice, hi, hj, ← between_natCast]
  rfl

theorem isInfix_of_le {i i' j j' : Nat} (text : List Char) (hi : i ≤ i') (hj : j' ≤ j) :
    (text.take j').drop i' <:+: (text.take j).drop i := by
  have hprefix : (text.take j').drop i <+: (text.take j).drop i :=
    List.IsPrefix.drop (List.take_prefix_take_left hj) i
  have hsuffix : (text.take j').drop i' <:+ (text.take j').drop i := by
    obtain ⟨k, rfl⟩ := Nat.exists_eq_add_of_le hi
    rw [← List.drop_drop]
    exact List.drop_suffix k _
  exact hsuffix.isInfix.trans hprefix.isInfix

theorem exists_offsets (text : List Char) (hp : p.Natural) (hq : q.Natural) (h : p ≤ q) :
    ∃ i j : Nat, offsetOf text p = .ok i ∧ offsetOf text q = .ok j ∧ i ≤ j := by
  obtain ⟨i, hi, -⟩ := positionOf_clamped text hp
  obtain ⟨j, hj, -⟩ := positionOf_clamped text hq
  exact ⟨i, j, hi, hj, Int.ofNat_le.mp (offsetOf_mono hp hq h hi hj)⟩

theorem slice_isInfix (text : List Char) {outer inner : Range} (ho : outer.Natural)
    (hi : inner.Natural) (hc : outer.contains inner = true) :
    ∃ whole part, slice text (some outer) = .ok whole ∧ slice text (some inner) = .ok part ∧
      part <:+: whole := by
  obtain ⟨hstart, hstop⟩ := Range.contains_iff.mp hc
  obtain ⟨i, i', houter, hinner, hle⟩ := exists_offsets text ho.start hi.start hstart
  obtain ⟨j', j, hinner', houter', hle'⟩ := exists_offsets text hi.stop ho.stop hstop
  exact ⟨_, _, slice_eq houter houter', slice_eq hinner hinner', isInfix_of_le text hle hle'⟩

/-- A position comes back from its offset clamped. Offsets grow with positions,
so of two nested ranges the inner one cuts out a part of what the outer does,
also where it ends before it starts. -/
theorem positionOf_offsetOf (text : List Char) :
    (∀ p : Position, p.Natural → ∃ k : Nat,
      offsetOf text p = .ok k ∧ positionOf text k .origin = clamped text p) ∧
    (∀ p q : Position, p.Natural → q.Natural → p ≤ q →
      ∃ i j : Nat, offsetOf text p = .ok i ∧ offsetOf text q = .ok j ∧ i ≤ j) ∧
    ∀ outer inner : Range, outer.Natural → inner.Natural → outer.contains inner = true →
      ∃ whole part, slice text (some outer) = .ok whole ∧ slice text (some inner) = .ok part ∧
        part <:+: whole :=
  ⟨fun _ => positionOf_clamped text, fun _ _ => exists_offsets text, fun _ _ => slice_isInfix text⟩

def mixedBreaks : List Char := "ab\r\n\rc\nde".toList

example : lines mixedBreaks = ["ab".toList, [], ['c'], "de".toList] := by decide

theorem positionOf_offsetOf_mixed :
    Position.Natural ⟨0, 9⟩ ∧ Position.Natural ⟨3, 1⟩ ∧ Position.Natural ⟨7, 5⟩ ∧
    (∃ k : Nat, offsetOf mixedBreaks ⟨3, 1⟩ = .ok k ∧
      positionOf mixedBreaks k .origin = ⟨3, 1⟩) ∧
    (∃ k : Nat, offsetOf mixedBreaks ⟨0, 9⟩ = .ok k ∧
      positionOf mixedBreaks k .origin = ⟨0, 2⟩) ∧
    (∃ k : Nat, offsetOf mixedBreaks ⟨7, 5⟩ = .ok k ∧
      positionOf mixedBreaks k .origin = ⟨3, 2⟩) ∧
    (∃ i j : Nat, offsetOf mixedBreaks ⟨0, 9⟩ = .ok i ∧ offsetOf mixedBreaks ⟨7, 5⟩ = .ok j ∧
      i ≤ j) ∧
    ∃ whole part, slice mixedBreaks (some ⟨⟨0, 9⟩, ⟨7, 5⟩⟩) = .ok whole ∧
      slice mixedBreaks (some ⟨⟨3, 1⟩, ⟨7, 5⟩⟩) = .ok part ∧ part <:+: whole := by
  have hpast : Position.Natural ⟨0, 9⟩ := ⟨by decide, by decide⟩
  have hinside : Position.Natural ⟨3, 1⟩ := ⟨by decide, by decide⟩
  have hlast : Position.Natural ⟨7, 5⟩ := ⟨by decide, by decide⟩
  obtain ⟨hback, hmono, hslice⟩ := positionOf_offsetOf mixedBreaks
  exact ⟨hpast, hinside, hlast, hback _ hinside, hback _ hpast, hback _ hlast,
    hmono _ _ hpast hlast (by decide), hslice _ _ ⟨hpast, hlast⟩ ⟨hinside, hlast⟩ (by decide)⟩

end CodeAtlas.Document
