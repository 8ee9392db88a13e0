import CodeAtlas.Position

namespace CodeAtlas

namespace Position

variable {p q r : Position}

theorem le_iff : p ≤ q ↔ p.line < q.line ∨ (p.line = q.line ∧ p.character ≤ q.character) := Iff.rfl

theorem le_refl (p : Position) : p ≤ p := .inr ⟨rfl, Int.le_refl _⟩

theorem le_trans (hpq : p ≤ q) (hqr : q ≤ r) : p ≤ r := by
  rw [le_iff] at *
  omega

theorem le_of_not_le (h : ¬ p ≤ q) : q ≤ p := by
  rw [le_iff] at *
  omega

end Position

namespace Range

variable {outer inner : Range}

theorem contains_iff :
    outer.contains inner = true ↔ outer.start ≤ inner.start ∧ inner.stop ≤ outer.stop := by
  simp [contains]

theorem eq_of_contains (hc : outer.contains inner = true) (hs : outer.span ≤ inner.span) :
    outer = inner := by
  obtain ⟨⟨⟨startLine, startCharacter⟩, ⟨stopLine, stopCharacter⟩⟩,
    ⟨⟨startLine', startCharacter'⟩, ⟨stopLine', stopCharacter'⟩⟩⟩ := outer, inner
  simp only [contains_iff, span, Position.le_iff] at hc hs
  simp only [mk.injEq, Position.mk.injEq]
  omega

end Range

end CodeAtlas
