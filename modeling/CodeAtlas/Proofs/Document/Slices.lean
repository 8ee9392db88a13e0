import CodeAtlas.Proofs.Document.Cuts

namespace CodeAtlas

/-- Counts from the start, as servers do. -/
structure Position.Natural (p : Position) : Prop where
  line : 0 ≤ p.line
  character : 0 ≤ p.character

structure Range.Natural (r : Range) : Prop where
  start : r.start.Natural
  stop : r.stop.Natural

namespace Document

theorem offsetOf_line (text : List Char) {p : Position} (hp : p.Natural)
    (hl : p.line ≤ (breaks 0 text).length) :
    ∃ a b, text = a ++ b ∧ Cut a b ∧ offsetOf text p = .ok a.length ∧
      p.line = (breaks 0 a).length := by
  obtain ⟨line, character⟩ := p
  obtain ⟨x, y, rfl, hc, hx, hs⟩ : ∃ x y, text = x ++ y ∧ Cut x y ∧
      (breaks 0 x).length = line.toNat ∧ lastStart 0 x = 0 + x.length := by
    apply exists_lineStart
    simp only at hl
    omega
  obtain rfl : line = (breaks 0 x).length := by
    have hn : 0 ≤ line := hp.line
    omega
  have hk : min character.toNat (lineRest y) ≤ lineRest y := Nat.min_le_right _ _
  obtain ⟨hcut, hbreaks⟩ := hc.advance hk
  refine ⟨_, _, by rw [List.append_assoc, List.take_append_drop], hcut, ?_, ?_⟩
  · have hr : lineRest y ≤ y.length := (List.takeWhile_sublist plain).length_le
    have hn : 0 ≤ character := hp.character
    rw [offsetOf_cut hc, hs, List.length_append, List.length_take, Int.min_def]
    congr 1
    omega
  · rw [hbreaks]

theorem offsetOf_past (text : List Char) {p : Position} (hl : (breaks 0 text).length < p.line) :
    offsetOf text p = .ok text.length := by
  rw [offsetOf, if_pos]
  simp only [lineStarts, List.length_cons, List.length_map]
  omega

theorem offsetOf_natural (text : List Char) {p : Position} (hp : p.Natural) :
    ∃ a b, text = a ++ b ∧ Cut a b ∧ offsetOf text p = .ok a.length ∧
      (p.line = (breaks 0 a).length ∨ b = []) := by
  by_cases hl : p.line ≤ (breaks 0 text).length
  · obtain ⟨a, b, htext, hcut, ho, hline⟩ := offsetOf_line text hp hl
    exact ⟨a, b, htext, hcut, ho, .inl hline⟩
  · exact ⟨text, [], by simp, cut_nil text, offsetOf_past text (by omega), .inr rfl⟩

@[simp]
theorem bound_natCast (length k : Nat) : bound length k = min k length := by simp [bound]

theorem between_natCast (text : List Char) (start stop : Nat) :
    between text start stop = (text.take stop).drop start := by
  have ht : text.take (min stop text.length) = text.take stop := List.take_eq_take_min.symm
  simp only [between, bound_natCast, ht]
  by_cases h : start ≤ text.length
  · rw [Nat.min_eq_left h]
  · rw [List.drop_eq_nil_of_le, List.drop_eq_nil_of_le] <;> simp <;> omega

/-- A part of a text between two cuts, the first of them where a position
leads. A position past the last line leads to the end of the text. -/
structure Excerpt (text : List Char) (p : Position) (before body after : List Char) : Prop where
  parts : text = before ++ body ++ after
  start : offsetOf text p = .ok before.length
  opened : Cut before (body ++ after)
  closed : Cut (before ++ body) after
  line : p.line = (breaks 0 before).length ∨ body ++ after = []

theorem slice_natural (text : List Char) {r : Range} (hr : r.Natural) :
    ∃ before body after, slice text (some r) = .ok body ∧
      Excerpt text r.start before body after := by
  obtain ⟨a, rest, ha, hcut, hstart, hline⟩ := offsetOf_natural text hr.start
  obtain ⟨z, b, hz, hcut', hstop, -⟩ := offsetOf_natural text hr.stop
  have hslice : slice text (some r) = .ok ((text.take z.length).drop a.length) := by
    simp only [slice, hstart, hstop, ← between_natCast]
    rfl
  by_cases hle : z.length ≤ a.length
  · refine ⟨a, [], rest, ?_, by simpa using ha, hstart, hcut, by simpa using hcut, hline⟩
    rw [hslice, List.drop_eq_nil_of_le (by simp; omega)]
  · obtain ⟨body, rfl⟩ : a <+: z :=
      List.prefix_of_prefix_length_le ⟨rest, ha.symm⟩ ⟨b, hz.symm⟩ (by omega)
    have hb : rest = body ++ b := by simpa [ha] using hz
    subst hb
    refine ⟨a, body, b, ?_, by simpa using ha, hstart, hcut, hcut', hline⟩
    rw [hslice, hz, List.take_left, List.drop_left]

theorem positionOf_of_breaks {body : List Char} {o : Nat} (ho : o ≤ body.length) (p : Position)
    {last : Nat × Nat} (h : (breaks 0 (body.take o)).getLast? = some last) :
    positionOf body o p = ⟨p.line + (breaks 0 (body.take o)).length, o - last.2⟩ := by
  simp only [positionOf, bound_natCast, Nat.min_eq_left ho, h, List.length_take]

theorem positionOf_of_plain {body : List Char} {o : Nat} (ho : o ≤ body.length) (p : Position)
    (h : breaks 0 (body.take o) = []) : positionOf body o p = ⟨p.line, p.character + o⟩ := by
  simp only [positionOf, bound_natCast, Nat.min_eq_left ho, h, List.getLast?_nil, List.length_take]

theorem offsetOf_self {a b : List Char} (h : Cut a b) :
    offsetOf (a ++ b) ⟨(breaks 0 a).length, a.length - lastStart 0 a⟩ = .ok a.length := by
  rw [offsetOf_cut h]
  congr 1
  omega

theorem offsetOf_advance {a b : List Char} (h : Cut a b) {p : Position}
    (hp : offsetOf (a ++ b) p = .ok a.length) (hline : p.line = (breaks 0 a).length) {k : Nat}
    (hk : k ≤ lineRest b) : offsetOf (a ++ b) ⟨p.line, p.character + k⟩ = .ok (a.length + k) := by
  obtain ⟨line, character⟩ := p
  obtain rfl : line = (breaks 0 a).length := hline
  simp only [offsetOf_cut h, Except.ok.injEq] at hp ⊢
  omega

theorem lineRest_append {x : List Char} (hx : breaks 0 x = []) (y : List Char) :
    x.length ≤ lineRest (x ++ y) := by
  rw [lineRest, List.takeWhile_append_of_pos ((breaks_eq_nil 0).mp hx), List.length_append]
  exact Nat.le_add_right _ _

theorem Cut.within {before body after x y : List Char} (h : Cut x y) (hbody : x ++ y = body)
    (hx : x ≠ []) (hclosed : Cut (before ++ body) after) : Cut (before ++ x) (y ++ after) := by
  by_cases hy : y = []
  · subst hy
    rw [List.append_nil] at hbody
    rwa [hbody]
  · exact h.extend hx hy before after

/-- The position of an offset in an excerpt leads to that offset from its
start. Before the first break of the excerpt the position is in the line of
the start, and after it in a line of the excerpt's own. -/
theorem Excerpt.offsetOf_place {text before body after : List Char} {p : Position}
    (h : Excerpt text p before body after) {o : Nat} (ho : o ≤ body.length)
    (hcut : Cut (body.take o) (body.drop o)) :
    offsetOf text (positionOf body o p) = .ok (before.length + o) := by
  obtain ⟨rfl, hstart, hopened, hclosed, hline⟩ := h
  have hbody : body.take o ++ body.drop o = body := List.take_append_drop o body
  have hlen : (body.take o).length = o := List.length_take_of_le ho
  rw [List.append_assoc] at hstart ⊢
  cases hbreaks : (breaks 0 (body.take o)).getLast? with
  | none =>
      have hnil : breaks 0 (body.take o) = [] := List.getLast?_eq_none_iff.mp hbreaks
      rw [positionOf_of_plain ho _ hnil]
      obtain hline | hnone := hline
      · have hrest : o ≤ lineRest (body ++ after) := by
          have := lineRest_append hnil (body.drop o ++ after)
          rwa [hlen, ← List.append_assoc, hbody] at this
        exact offsetOf_advance hopened hstart hline hrest
      · obtain rfl : o = 0 := by simp_all
        simpa using hstart
  | some last =>
      have hhead : body.take o ≠ [] := by
        intro h
        simp [h, breaks] at hbreaks
      have hline : p.line = (breaks 0 before).length := by
        refine hline.resolve_right fun h => hhead ?_
        simp [(List.append_eq_nil_iff.mp h).1]
      have hfirst : Cut before (body.take o) := by
        apply Cut.left (d := body.drop o ++ after)
        rwa [← List.append_assoc, hbody]
      have hlast : Cut (before ++ body.take o) (body.drop o ++ after) :=
        hcut.within hbody hhead hclosed
      have hcount : (breaks 0 (before ++ body.take o)).length =
          (breaks 0 before).length + (breaks 0 (body.take o)).length := by
        rw [breaks_append hfirst, breaks_add]
        simp
      have hself := offsetOf_self hlast
      rw [lastStart_append hfirst hbreaks, hcount, List.append_assoc,
        ← List.append_assoc _ _ after, hbody, List.length_append, hlen] at hself
      have hcolumn : ((before.length + o : Nat) : Int) - (before.length + last.2 : Nat) =
          o - last.2 := by omega
      rw [hcolumn] at hself
      rw [positionOf_of_breaks ho _ hbreaks, hline]
      simpa using hself

/-- An offset in a slice that is no inside of a line break, taken to its
position and back, is the same place in the document. -/
theorem offsetOf_positionOf (text : List Char) {r : Range} (hr : r.Natural) :
    ∃ body start, slice text (some r) = .ok body ∧ offsetOf text r.start = .ok start ∧
      ∀ o ≤ body.length, Cut (body.take o) (body.drop o) →
        offsetOf text (positionOf body o r.start) = .ok (start + o) := by
  obtain ⟨before, body, after, hslice, h⟩ := slice_natural text hr
  exact ⟨body, before.length, hslice, h.start, fun o ho hcut => h.offsetOf_place ho hcut⟩

theorem offsetOf_positionOf_clamped :
    Range.Natural ⟨⟨0, 9⟩, ⟨1, 9⟩⟩ ∧
      offsetOf "a\r\nbc\rd".toList
        (positionOf "\r\nbc".toList 3 ⟨0, 9⟩) = .ok (1 + 3) := by
  have hr : Range.Natural ⟨⟨0, 9⟩, ⟨1, 9⟩⟩ := by
    constructor <;> constructor <;> decide
  refine ⟨hr, ?_⟩
  obtain ⟨body, start, hb, hs, h⟩ := offsetOf_positionOf "a\r\nbc\rd".toList hr
  obtain rfl : "\r\nbc".toList = body := Except.ok.inj hb
  obtain rfl : 1 = start := Except.ok.inj hs
  exact h 3 (by decide) (by decide)

end Document

end CodeAtlas
