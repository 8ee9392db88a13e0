import CodeAtlas.Text.Utf8

namespace CodeAtlas.Text.Utf8

theorem toNat_valid (c : Char) : c.toNat < 0xD800 ∨ 0xDFFF < c.toNat ∧ c.toNat < 0x110000 := c.valid

theorem toNat_ofNat {n : Nat} (h : n < 256) : (UInt8.ofNat n).toNat = n := by
  simpa using Nat.mod_eq_of_lt h

theorem joined_eq {c : Char} {lead : Nat} {tail : List UInt8}
    (h : tail.foldl (fun n b => n * 64 + (b.toNat - 0x80)) lead = c.toNat) :
    joined lead tail = c := by
  rw [joined, h, Char.ofNat_toNat]

theorem isContinuation_iff {b : UInt8} :
    isContinuation b = true ↔ 0x80 ≤ b.toNat ∧ b.toNat ≤ 0xBF := by
  simp [isContinuation]

section Sequences

variable {a b c d : UInt8} {r : List UInt8}

theorem scan_one (ha : a.toNat < 0x80) : scan (a :: r) = some (Char.ofNat a.toNat) :: scan r := by
  rw [scan.eq_def]
  simp [ha]

theorem scan_two (ha : 0xC2 ≤ a.toNat) (ha' : a.toNat < 0xE0) (hb : mayFollow a b = true) :
    scan (a :: b :: r) = some (joined (a.toNat - 0xC0) [b]) :: scan r := by
  rw [scan.eq_def]
  have h1 : ¬ a.toNat < 0x80 := by omega
  have h2 : ¬ (a.toNat < 0xC2 ∨ 0xF4 < a.toNat) := by omega
  simp [h1, h2, ha', hb]

theorem scan_three (ha : 0xE0 ≤ a.toNat) (ha' : a.toNat < 0xF0) (hb : mayFollow a b = true)
    (hc : isContinuation c = true) :
    scan (a :: b :: c :: r) = some (joined (a.toNat - 0xE0) [b, c]) :: scan r := by
  rw [scan.eq_def]
  have h1 : ¬ a.toNat < 0x80 := by omega
  have h2 : ¬ (a.toNat < 0xC2 ∨ 0xF4 < a.toNat) := by omega
  have h3 : ¬ a.toNat < 0xE0 := by omega
  simp [h1, h2, h3, ha', hb, hc]

theorem scan_four (ha : 0xF0 ≤ a.toNat) (ha' : a.toNat ≤ 0xF4) (hb : mayFollow a b = true)
    (hc : isContinuation c = true) (hd : isContinuation d = true) :
    scan (a :: b :: c :: d :: r) = some (joined (a.toNat - 0xF0) [b, c, d]) :: scan r := by
  rw [scan.eq_def]
  have h1 : ¬ a.toNat < 0x80 := by omega
  have h2 : ¬ (a.toNat < 0xC2 ∨ 0xF4 < a.toNat) := by omega
  have h3 : ¬ a.toNat < 0xE0 := by omega
  have h4 : ¬ a.toNat < 0xF0 := by omega
  simp [h1, h2, h3, h4, hb, hc, hd]

end Sequences

theorem scan_encodeChar (c : Char) (rest : List UInt8) :
    scan (encodeChar c ++ rest) = some c :: scan rest := by
  have hc := toNat_valid c
  unfold encodeChar
  extract_lets n
  by_cases h1 : n < 0x80
  · have hn : (UInt8.ofNat n).toNat = n := toNat_ofNat (by omega)
    rw [if_pos h1, List.singleton_append, scan_one (by omega), hn, Char.ofNat_toNat]
  by_cases h2 : n < 0x800
  · have ha : (UInt8.ofNat (0xC0 + n / 64)).toNat = 0xC0 + n / 64 := toNat_ofNat (by omega)
    have hb : (UInt8.ofNat (0x80 + n % 64)).toNat = 0x80 + n % 64 := toNat_ofNat (by omega)
    have hfollow : mayFollow (UInt8.ofNat (0xC0 + n / 64)) (UInt8.ofNat (0x80 + n % 64)) = true := by
      grind [mayFollow, isContinuation]
    rw [if_neg h1, if_pos h2]
    simp only [List.cons_append, List.nil_append]
    rw [scan_two (by omega) (by omega) hfollow, joined_eq (c := c)]
    simp only [List.foldl_cons, List.foldl_nil, ha, hb]
    omega
  have hlow (k : Nat) : (UInt8.ofNat (0x80 + k % 64)).toNat = 0x80 + k % 64 :=
    toNat_ofNat (by omega)
  have hlast (k : Nat) : isContinuation (UInt8.ofNat (0x80 + k % 64)) = true := by
    rw [isContinuation_iff, hlow]
    omega
  by_cases h3 : n < 0x10000
  · have ha : (UInt8.ofNat (0xE0 + n / 4096)).toNat = 0xE0 + n / 4096 := toNat_ofNat (by omega)
    have hfollow : mayFollow (UInt8.ofNat (0xE0 + n / 4096)) (UInt8.ofNat (0x80 + n / 64 % 64)) =
        true := by
      grind [mayFollow]
    rw [if_neg h1, if_neg h2, if_pos h3]
    simp only [List.cons_append, List.nil_append]
    rw [scan_three (by omega) (by omega) hfollow (hlast n), joined_eq (c := c)]
    simp only [List.foldl_cons, List.foldl_nil, ha, hlow]
    omega
  · have ha : (UInt8.ofNat (0xF0 + n / 262144)).toNat = 0xF0 + n / 262144 :=
      toNat_ofNat (by omega)
    have hfollow : mayFollow (UInt8.ofNat (0xF0 + n / 262144))
        (UInt8.ofNat (0x80 + n / 4096 % 64)) = true := by
      grind [mayFollow]
    rw [if_neg h1, if_neg h2, if_neg h3]
    simp only [List.cons_append, List.nil_append]
    rw [scan_four (by omega) (by omega) hfollow (hlast _) (hlast n), joined_eq (c := c)]
    simp only [List.foldl_cons, List.foldl_nil, ha, hlow]
    omega

theorem scan_encode (text : List Char) : scan (encode text) = text.map some := by
  induction text with
  | nil => rfl
  | cons c rest ih => rw [encode, List.flatMap_cons, scan_encodeChar, ← encode, ih, List.map_cons]

theorem decode?_encode (text : List Char) : decode? (encode text) = some text := by
  rw [decode?, scan_encode]
  induction text with
  | nil => rfl
  | cons c rest ih => rw [List.map_cons, allSome, ih, Option.map_some]

theorem encode_inj {s t : List Char} : encode s = encode t ↔ s = t := by
  constructor
  · intro h
    exact Option.some.inj (decode?_encode s ▸ h ▸ decode?_encode t)
  · exact congrArg encode

theorem decodeLossy_encode (text : List Char) : decodeLossy (encode text) = text := by
  rw [decodeLossy, scan_encode, List.map_map]
  exact List.map_id _

end CodeAtlas.Text.Utf8
