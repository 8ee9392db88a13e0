import CodeAtlas.Text.Class

namespace CodeAtlas.CallSite

open Text

theorem isWord_of_isIdentStart {c : Char} (h : isIdentStart c = true) : isWord c = true := by
  have hc : isAsciiLetter c = true ∨ c = '_' := by simpa [isIdentStart] using h
  obtain hc | rfl := hc
  · have hlt : c.toNat < 128 := by
      simp only [isAsciiLetter, Bool.or_eq_true, Bool.and_eq_true, decide_eq_true_eq, Char.le_def,
        UInt32.le_iff_toNat_le] at hc
      have hz : c.val.toNat ≤ 122 ∨ c.val.toNat ≤ 90 := hc.imp (fun h => h.2) (fun h => h.2)
      have hv : c.toNat = c.val.toNat := rfl
      omega
    simp [isWord, hlt, hc]
  · rfl

def blankCodes : List Nat := [
  9, 10, 11, 12, 13, 28, 29, 30, 31, 32, 0x85, 0xa0, 0x1680, 0x2000, 0x2001, 0x2002, 0x2003, 0x2004,
  0x2005, 0x2006, 0x2007, 0x2008, 0x2009, 0x200a, 0x2028, 0x2029, 0x202f, 0x205f, 0x3000]

theorem isWord_of_isBlank {c : Char} (h : isBlank c = true) : isWord c = false := by
  have hcode : c.toNat ∈ blankCodes := by
    simp only [isBlank, inRanges, blankRanges] at h
    simp only [blankCodes]
    split at h <;> simp at h ⊢ <;> omega
  have hall : ∀ n ∈ blankCodes, isWord (Char.ofNat n) = false := by decide +kernel
  simpa using hall _ hcode

structure Identifier (name : List Char) : Prop where
  start : ∃ c ∈ name.head?, isIdentStart c = true
  word : ∀ c ∈ name, isWord c = true

theorem Identifier.eq_cons {name : List Char} (h : Identifier name) :
    ∃ c more, name = c :: more ∧ isWord c = true := by
  obtain ⟨c, hc, hstart⟩ := h.start
  obtain ⟨more, rfl⟩ := List.head?_eq_some_iff.mp hc
  exact ⟨c, more, rfl, isWord_of_isIdentStart hstart⟩

theorem Identifier.noBlank {name rest : List Char} (h : Identifier name) :
    ∀ c ∈ (name ++ rest).head?, isBlank c = false := by
  obtain ⟨d, more, rfl, hd⟩ := h.eq_cons
  intro c hc
  obtain rfl : d = c := by simpa using hc
  cases hblank : isBlank d with
  | false => rfl
  | true => simp [isWord_of_isBlank hblank] at hd

theorem run_unique {f : Char → Bool} {run run' rest rest' : List Char}
    (hrun : ∀ c ∈ run, f c = true) (hrun' : ∀ c ∈ run', f c = true)
    (hrest : ∀ c ∈ rest.head?, f c = false) (hrest' : ∀ c ∈ rest'.head?, f c = false)
    (h : run ++ rest = run' ++ rest') : run = run' ∧ rest = rest' := by
  induction run generalizing run' with
  | nil =>
      cases run' with
      | nil => exact ⟨rfl, h⟩
      | cons d run' =>
          have hd := hrun' d List.mem_cons_self
          have hno := hrest d (by rw [← List.nil_append rest, h]; rfl)
          simp [hd] at hno
  | cons c run ih =>
      obtain ⟨hc, hrun⟩ := List.forall_mem_cons.mp hrun
      cases run' with
      | nil =>
          have hno := hrest' c (by rw [← List.nil_append rest', ← h]; rfl)
          simp [hc] at hno
      | cons d run' =>
          obtain ⟨rfl, htail⟩ := List.cons.inj h
          obtain ⟨rfl, hrest⟩ := ih hrun (List.forall_mem_cons.mp hrun').2 htail
          exact ⟨rfl, hrest⟩

def Delimits (d : Char) : Prop := isWord d = false ∧ isBlank d = false

theorem delimits_parenthesis : Delimits '(' := ⟨by decide, by decide⟩

theorem delimits_dot : Delimits '.' := ⟨by decide, by decide⟩

theorem Delimits.noWord {d : Char} (hd : Delimits d) {gap rest : List Char}
    (hgap : ∀ c ∈ gap, isBlank c = true) : ∀ c ∈ (gap ++ d :: rest).head?, isWord c = false := by
  intro c hc
  cases gap with
  | nil =>
      obtain rfl : d = c := by simpa using hc
      exact hd.1
  | cons b gap =>
      obtain rfl : b = c := by simpa using hc
      exact isWord_of_isBlank (hgap b List.mem_cons_self)

theorem word_unique {word word' gap gap' rest rest' : List Char} {d d' : Char}
    (hword : ∀ c ∈ word, isWord c = true) (hword' : ∀ c ∈ word', isWord c = true)
    (hgap : ∀ c ∈ gap, isBlank c = true) (hgap' : ∀ c ∈ gap', isBlank c = true)
    (hd : Delimits d) (hd' : Delimits d')
    (h : word ++ (gap ++ d :: rest) = word' ++ (gap' ++ d' :: rest')) :
    word = word' ∧ gap = gap' ∧ d = d' ∧ rest = rest' := by
  obtain ⟨rfl, hafter⟩ := run_unique hword hword' (hd.noWord hgap) (hd'.noWord hgap') h
  obtain ⟨rfl, hrest⟩ := run_unique hgap hgap' (by simpa using hd.2) (by simpa using hd'.2) hafter
  exact ⟨rfl, rfl, List.cons.inj hrest⟩

theorem noWord_of_append {front back : List Char}
    (h : ∀ c ∈ (front ++ back).getLast?, isWord c = false) :
    ∀ c ∈ back.getLast?, isWord c = false := by
  intro c hc
  refine h c ?_
  rw [Option.mem_def, List.getLast?_append, Option.mem_def.mp hc]
  rfl

theorem word_start_cases {mid ahead word gap rest : List Char}
    (hword : ∀ c ∈ word, isWord c = true) (hgap : ∀ c ∈ gap, isWord c = false)
    (hstart : ∃ c ∈ ahead.head?, isWord c = true) (hlast : ∀ c ∈ mid.getLast?, isWord c = false)
    (h : mid ++ ahead = word ++ (gap ++ rest)) :
    mid = [] ∨ ∃ more, mid = word ++ gap ++ more ∧ more ++ ahead = rest := by
  obtain ⟨inside, rfl, -⟩ | ⟨later, rfl, hlater⟩ := List.append_eq_append_iff.mp h
  · obtain rfl | ⟨front, c, rfl⟩ := mid.eq_nil_or_concat
    · exact .inl rfl
    · have hno := hlast c (by simp)
      simp [hword c (by simp)] at hno
  · right
    obtain ⟨more, rfl, hrest⟩ | ⟨inside, rfl, rfl⟩ := List.append_eq_append_iff.mp hlater
    · exact ⟨more, by simp, hrest.symm⟩
    · cases inside with
      | nil => exact ⟨[], by simp, rfl⟩
      | cons c inside =>
          obtain ⟨d, hd, hstart⟩ := hstart
          obtain rfl : c = d := by simpa using hd
          simp [hgap c (by simp)] at hstart

end CodeAtlas.CallSite
