import CodeAtlas.Text.Units

namespace CodeAtlas.Text.Units

theorem not_isSurrogate (c : Char) : isSurrogate c.toNat = false := by
  have hc : c.toNat < 0xD800 ∨ 0xDFFF < c.toNat ∧ c.toNat < 0x110000 := c.valid
  simp only [isSurrogate, isHigh, isLow, Bool.or_eq_false_iff, Bool.and_eq_false_iff,
    decide_eq_false_iff_not]
  omega

theorem character_toNat (c : Char) : character c.toNat = c := by
  simp [character, not_isSurrogate]

theorem points_chars (text : List Char) : points (text.map Char.toNat) = text.map Char.toNat := by
  induction text with
  | nil => rfl
  | cons c rest ih =>
      cases rest with
      | nil => rfl
      | cons d rest =>
          have hc : isHigh c.toNat = false := (Bool.or_eq_false_iff.mp (not_isSurrogate c)).1
          simp only [List.map_cons, points, hc, Bool.false_and, Bool.false_eq_true, if_false]
          rw [← List.map_cons, ih]

theorem map_character_chars (text : List Char) : (text.map Char.toNat).map character = text := by
  induction text with
  | nil => rfl
  | cons c rest ih => simp only [List.map_cons, character_toNat, ih]

end CodeAtlas.Text.Units
