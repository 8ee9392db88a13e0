import CodeAtlas.Proofs.Document.Slices
import CodeAtlas.Proofs.Position.Order

namespace CodeAtlas

variable {p q : Position}

namespace Document

variable {text a b : List Char} {e : Nat × Nat}

theorem snd_le_of_mem_breaks {n : Nat} (h : e ∈ breaks n a) : e.2 ≤ n + a.length := by
  induction n, a using breaks.induct with
  | case1 n => simp [breaks] at h
  | case2 n rest ih =>
      rw [breaks_pair] at h
      simp only [List.length_cons]
      obtain rfl | h := List.mem_cons.mp h
      · omega
      · have hrest := ih h
        omega
  | case3 n c rest hne _ ih | case4 n c rest hne _ ih =>
      rw [breaks_cons (cut_of_unpaired hne)] at h
      simp only [List.length_cons]
      obtain h | h := List.mem_append.mp h
      · split at h
        · simp at h
        · obtain rfl := List.mem_singleton.mp h
          omega
      · have hrest := ih h
        omega

theorem offsetOf_le_length (hp : p.Natural) {i : Int} (h : offsetOf text p = .ok i) :
    i ≤ text.length := by
  obtain ⟨a, b, rfl, -, ha, -⟩ := offsetOf_natural text hp
  obtain rfl : (a.length : Int) = i := Except.ok.inj (ha.symm.trans h)
  rw [List.length_append]
  omega

theorem offsetOf_mono_line (hl : p.line = q.line) (hc : p.character ≤ q.character) {i j : Int}
    (hi : offsetOf text p = .ok i) (hj : offsetOf text q = .ok j) : i ≤ j := by
  simp only [offsetOf, hl] at hi hj
  split at hi
  · simp_all
  · split at hi
    · cases hi
    · simp_all
      omega

theorem offsetOf_mono (hp : p.Natural) (hq : q.Natural) (h : p ≤ q) {i j : Int}
    (hi : offsetOf text p = .ok i) (hj : offsetOf text q = .ok j) : i ≤ j := by
  obtain hlt | ⟨hl, hc⟩ : p.line < q.line ∨ (p.line = q.line ∧ p.character ≤ q.character) := h
  · by_cases hlast : q.line ≤ (breaks 0 text).length
    · obtain ⟨a, b, rfl, hcut, ha, hline⟩ := offsetOf_line text hp (by omega)
      obtain ⟨c, d, htext, hcut', hc, hline'⟩ := offsetOf_line _ hq hlast
      obtain rfl : (a.length : Int) = i := Except.ok.inj (ha.symm.trans hi)
      obtain rfl : (c.length : Int) = j := Except.ok.inj (hc.symm.trans hj)
      -- Else the place in the higher line would have no fewer breaks before it.
      refine Decidable.byContradiction fun hshort => ?_
      obtain ⟨rest, rfl⟩ : c <+: a :=
        List.prefix_of_prefix_length_le ⟨d, htext.symm⟩ ⟨b, rfl⟩ (by omega)
      obtain rfl : rest ++ b = d := by simpa using htext
      rw [breaks_append hcut'.left, List.length_append] at hline
      omega
    · have hpast : offsetOf text q = .ok text.length := offsetOf_past text (by omega)
      obtain rfl : (text.length : Int) = j := Except.ok.inj (hpast.symm.trans hj)
      exact offsetOf_le_length hp hi
  · exact offsetOf_mono_line hl hc hi hj

theorem positionOf_bounds {body : List Char} {o : Nat} (ho : o ≤ body.length) (hp : p.Natural) :
    (positionOf body o p).Natural ∧ p ≤ positionOf body o p := by
  have hline : 0 ≤ p.line := hp.line
  have hcharacter : 0 ≤ p.character := hp.character
  cases hbreaks : (breaks 0 (body.take o)).getLast? with
  | none =>
      rw [positionOf_of_plain ho _ (List.getLast?_eq_none_iff.mp hbreaks)]
      exact ⟨⟨hline, by simp only; omega⟩, .inr ⟨rfl, by simp only; omega⟩⟩
  | some last =>
      have hmem : last ∈ breaks 0 (body.take o) := List.mem_of_getLast? hbreaks
      have hlast : last.2 ≤ 0 + (body.take o).length := snd_le_of_mem_breaks hmem
      have hcount : 0 < (breaks 0 (body.take o)).length := List.length_pos_of_mem hmem
      rw [List.length_take_of_le ho] at hlast
      rw [positionOf_of_breaks ho _ hbreaks]
      exact ⟨⟨by simp only; omega, by simp only; omega⟩, .inl (by simp only; omega)⟩

theorem contains_positionOf {r : Range} (hr : r.Natural) {body : List Char}
    (hb : slice text (some r) = .ok body) {o : Nat} (ho : o < body.length)
    (hcut : Cut (body.take o) (body.drop o)) :
    r.containsPosition (positionOf body o r.start) = true := by
  obtain ⟨hnatural, hstart⟩ := positionOf_bounds (Nat.le_of_lt ho) hr.start
  obtain ⟨before, found, after, hfound, h⟩ := slice_natural text hr
  obtain rfl : body = found := Except.ok.inj (hb.symm.trans hfound)
  have hplace := h.offsetOf_place (Nat.le_of_lt ho) hcut
  obtain ⟨z, rest, rfl, -, hstop, -⟩ := offsetOf_natural text hr.stop
  have hlength : before.length + body.length ≤ z.length := by
    simp only [slice, h.start, hstop] at hb
    obtain rfl : z.drop before.length = body := by
      simpa [bind, Except.bind, pure, Except.pure, between_natCast] using hb
    rw [List.length_drop] at ho ⊢
    omega
  have hstop' : positionOf body o r.start ≤ r.stop := by
    refine Decidable.byContradiction fun hnot => ?_
    have hmono := offsetOf_mono hr.stop hnatural (Position.le_of_not_le hnot) hstop hplace
    omega
  simp [Range.containsPosition, Range.contains, Range.point, hstart, hstop']

end Document

end CodeAtlas
