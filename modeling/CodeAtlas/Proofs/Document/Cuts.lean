import CodeAtlas.Document.Offsets

namespace CodeAtlas.Document

def plain (c : Char) : Bool := c ≠ '\n' && c ≠ '\r'

def Cut (a b : List Char) : Prop := ¬ (a.getLast? = some '\r' ∧ b.head? = some '\n')

instance (a b : List Char) : Decidable (Cut a b) :=
  inferInstanceAs (Decidable (¬ (a.getLast? = some '\r' ∧ b.head? = some '\n')))

/-- Where the last line starts, in a text that is counted from `n`. -/
def lastStart (n : Nat) (a : List Char) : Nat := ((breaks n a).getLast?.map Prod.snd).getD n

def lineRest (b : List Char) : Nat := (b.takeWhile plain).length

variable {a b : List Char} {c : Char} {n k : Nat}

theorem Cut.nil (b : List Char) : Cut [] b := by simp [Cut]

theorem cut_nil (a : List Char) : Cut a [] := by simp [Cut]

theorem Cut.of_plain (h : plain c = true) (a b : List Char) : Cut (a ++ [c]) b := by
  rintro ⟨hc, -⟩
  obtain rfl : c = '\r' := by simpa using hc
  simp [plain] at h

theorem Cut.left {d : List Char} (h : Cut a (b ++ d)) : Cut a b := by
  rintro ⟨ha, hb⟩
  exact h ⟨ha, by simp [hb]⟩

theorem Cut.tail (h : Cut (c :: a) b) : Cut a b := by
  rintro ⟨ha, hb⟩
  exact h ⟨by simp [List.getLast?_cons, ha], hb⟩

theorem Cut.append (h : Cut [c] a) (h' : Cut (c :: a) b) : Cut [c] (a ++ b) := by
  cases a with
  | nil => exact h'
  | cons d rest => simpa [Cut] using h

theorem Cut.cons (h : Cut a b) (hc : a = [] → Cut [c] b) : Cut (c :: a) b := by
  cases a with
  | nil => exact hc rfl
  | cons d rest =>
      rintro ⟨ha, hb⟩
      exact h ⟨by simpa using ha, hb⟩

theorem Cut.extend (h : Cut a b) (ha : a ≠ []) (hb : b ≠ []) (x y : List Char) :
    Cut (x ++ a) (b ++ y) := by
  rintro ⟨hl, hh⟩
  rw [List.getLast?_append, List.getLast?_eq_some_getLast ha, Option.some_or] at hl
  rw [List.head?_append, List.head?_eq_some_head hb, Option.some_or] at hh
  exact h ⟨by rw [List.getLast?_eq_some_getLast ha, hl], by rw [List.head?_eq_some_head hb, hh]⟩

theorem cut_of_unpaired (h : ∀ rest, c = '\r' → a = '\n' :: rest → False) : Cut [c] a := by
  rintro ⟨hc, ha⟩
  obtain ⟨rest, rfl⟩ := List.head?_eq_some_iff.mp ha
  exact h rest (by simpa using hc) rfl

@[simp]
theorem breaks_pair (n : Nat) (a : List Char) :
    breaks n ('\r' :: '\n' :: a) = (n, n + 2) :: breaks (n + 2) a := breaks.eq_2 n a

theorem breaks_cons (h : Cut [c] a) (n : Nat) :
    breaks n (c :: a) = (if plain c then [] else [(n, n + 1)]) ++ breaks (n + 1) a := by
  rw [breaks.eq_3]
  · by_cases hc : c = '\n' ∨ c = '\r'
    · have hp : plain c = false := by obtain rfl | rfl := hc <;> rfl
      simp [hc, hp]
    · have hp : plain c = true := by simpa [plain] using hc
      simp [hc, hp]
  · rintro rest rfl rfl
    exact h ⟨rfl, rfl⟩

theorem breaks_append (h : Cut a b) (n : Nat) :
    breaks n (a ++ b) = breaks n a ++ breaks (n + a.length) b := by
  induction n, a using breaks.induct with
  | case1 n => simp [breaks]
  | case2 n rest ih =>
      have hl : n + ('\r' :: '\n' :: rest).length = n + 2 + rest.length := by
        simp only [List.length_cons]
        omega
      rw [hl, List.cons_append, List.cons_append, breaks_pair, breaks_pair, ih h.tail.tail]
      rfl
  | case3 n c rest hne _ ih | case4 n c rest hne _ ih =>
      have hc : Cut [c] rest := cut_of_unpaired hne
      have hl : n + (c :: rest).length = n + 1 + rest.length := by
        simp only [List.length_cons]
        omega
      rw [hl, List.cons_append, breaks_cons (hc.append h), breaks_cons hc, ih h.tail,
        List.append_assoc]

theorem breaks_add (a : List Char) (n k : Nat) :
    breaks (n + k) a = (breaks n a).map fun e => (e.1 + k, e.2 + k) := by
  induction n, a using breaks.induct with
  | case1 n => simp [breaks]
  | case2 n rest ih => simp [← ih, Nat.add_right_comm]
  | case3 n c rest hne _ ih | case4 n c rest hne _ ih =>
      have hc : Cut [c] rest := cut_of_unpaired hne
      rw [breaks_cons hc, breaks_cons hc, Nat.add_right_comm, ih]
      split <;> simp [Nat.add_right_comm]

theorem breaks_eq_nil (n : Nat) : breaks n a = [] ↔ ∀ c ∈ a, plain c = true := by
  induction n, a using breaks.induct with
  | case1 n => simp [breaks]
  | case2 n rest ih => simp [plain]
  | case3 n c rest hne _ ih | case4 n c rest hne _ ih =>
      rw [breaks_cons (cut_of_unpaired hne), List.append_eq_nil_iff, ih, List.forall_mem_cons]
      simp

theorem head_breaks (n : Nat) (b : List Char) :
    ((breaks n b).map Prod.fst ++ [n + b.length]).head? = some (n + lineRest b) := by
  induction n, b using breaks.induct with
  | case1 n => simp [breaks, lineRest]
  | case2 n rest ih => simp [lineRest, plain]
  | case3 n c rest hne _ ih | case4 n c rest hne _ ih =>
      rw [breaks_cons (cut_of_unpaired hne)]
      cases hp : plain c with
      | false => simp [lineRest, hp]
      | true =>
          have hl : n + (c :: rest).length = n + 1 + rest.length := by
            simp only [List.length_cons]
            omega
          have hr : lineRest (c :: rest) = lineRest rest + 1 := by simp [lineRest, hp]
          rw [hl, hr]
          simpa [Nat.add_assoc, Nat.add_comm 1] using ih

theorem lastStart_append (h : Cut a b) {e : Nat × Nat} (hb : (breaks 0 b).getLast? = some e) :
    lastStart 0 (a ++ b) = a.length + e.2 := by
  have hs : breaks (0 + a.length) b = (breaks 0 b).map fun e => (e.1 + a.length, e.2 + a.length) :=
    breaks_add b 0 a.length
  rw [lastStart, breaks_append h, hs, List.getLast?_append, List.getLast?_map, hb]
  simp [Nat.add_comm]

theorem lineStarts_cut (h : Cut a b) :
    (lineStarts (a ++ b)).getD (breaks 0 a).length 0 = lastStart 0 a := by
  rw [lineStarts, breaks_append h, lastStart]
  obtain hn | ⟨init, e, he⟩ := List.eq_nil_or_concat (breaks 0 a)
  · simp [hn]
  · simp [he]

theorem lineEnds_cut (h : Cut a b) :
    (lineEnds (a ++ b)).getD (breaks 0 a).length 0 = a.length + lineRest b := by
  have hh := head_breaks a.length b
  rw [List.head?_eq_getElem?] at hh
  rw [lineEnds, breaks_append h, List.map_append, List.append_assoc, List.getD_eq_getElem?_getD,
    List.getElem?_append_right (by simp)]
  simp only [List.length_map, Nat.sub_self, Nat.zero_add, List.length_append, hh, Option.getD_some]

theorem offsetOf_cut (h : Cut a b) (character : Int) :
    offsetOf (a ++ b) ⟨(breaks 0 a).length, character⟩ =
      .ok (min (lastStart 0 a + character) (a.length + lineRest b : Nat)) := by
  have hlt : (breaks 0 a).length < (lineStarts (a ++ b)).length := by
    rw [lineStarts, breaks_append h, List.length_cons, List.length_map, List.length_append]
    omega
  have hi : index? (lineStarts (a ++ b)).length (breaks 0 a).length = some (breaks 0 a).length := by
    simp [index?, hlt]
  simp only [offsetOf, hi, lineStarts_cut h, lineEnds_cut h]
  rw [if_neg (by omega)]

theorem lastStart_next {m : Nat} (h : breaks n a = (n, m) :: breaks m b) :
    lastStart n a = lastStart m b := by
  rw [lastStart, h, List.getLast?_cons, lastStart]
  cases (breaks m b).getLast? <;> rfl

theorem lastStart_congr {m : Nat} (h : breaks n a = breaks m b) (hb : breaks m b ≠ []) :
    lastStart n a = lastStart m b := by
  rw [lastStart, lastStart, h, List.getLast?_eq_some_getLast hb]
  rfl

theorem exists_lineStart {i : Nat} (hi : i ≤ (breaks n a).length) :
    ∃ x y, a = x ++ y ∧ Cut x y ∧ (breaks n x).length = i ∧ lastStart n x = n + x.length := by
  induction n, a using breaks.induct generalizing i with
  | case1 n =>
      obtain rfl : i = 0 := by simpa [breaks] using hi
      exact ⟨[], [], rfl, .nil _, rfl, rfl⟩
  | case2 n rest ih =>
      cases i with
      | zero => exact ⟨[], _, rfl, .nil _, rfl, rfl⟩
      | succ i =>
          obtain ⟨x, y, rfl, hc, hl, hs⟩ := ih (i := i) (by simpa using hi)
          refine ⟨'\r' :: '\n' :: x, y, rfl, ?_, by simp [hl], ?_⟩
          · exact (hc.cons (by simp [Cut])).cons (by simp)
          · rw [lastStart_next (breaks_pair n x), hs]
            simp only [List.length_cons]
            omega
  | case3 n c rest hne hb ih =>
      cases i with
      | zero => exact ⟨[], _, rfl, .nil _, rfl, rfl⟩
      | succ i =>
          have hp : plain c = false := by obtain rfl | rfl := hb <;> rfl
          have hcut : Cut [c] rest := cut_of_unpaired hne
          obtain ⟨x, y, rfl, hc, hl, hs⟩ := ih (i := i) (by simpa [breaks_cons hcut, hp] using hi)
          have hx : breaks n (c :: x) = (n, n + 1) :: breaks (n + 1) x := by
            rw [breaks_cons hcut.left, hp]
            rfl
          refine ⟨c :: x, y, rfl, ?_, by simp [hx, hl], ?_⟩
          · apply hc.cons
            rintro rfl
            exact hcut
          · rw [lastStart_next hx, hs]
            simp only [List.length_cons]
            omega
  | case4 n c rest hne hb ih =>
      cases i with
      | zero => exact ⟨[], _, rfl, .nil _, rfl, rfl⟩
      | succ i =>
          -- No line starts after this character, so as many are left to be found.
          have hp : plain c = true := by simpa [plain] using hb
          have hcut : Cut [c] rest := cut_of_unpaired hne
          obtain ⟨x, y, rfl, hc, hl, hs⟩ :=
            ih (i := i + 1) (by simpa [breaks_cons hcut, hp] using hi)
          have hx : breaks n (c :: x) = breaks (n + 1) x := by
            rw [breaks_cons hcut.left, hp]
            rfl
          refine ⟨c :: x, y, rfl, ?_, by simp [hx, hl], ?_⟩
          · apply hc.cons
            rintro rfl
            exact hcut
          · rw [lastStart_congr hx (List.ne_nil_of_length_eq_add_one hl), hs]
            simp only [List.length_cons]
            omega

theorem Cut.advance (h : Cut a b) (hk : k ≤ lineRest b) :
    Cut (a ++ b.take k) (b.drop k) ∧ breaks 0 (a ++ b.take k) = breaks 0 a := by
  obtain ⟨rest, hrest⟩ := List.takeWhile_prefix plain (l := b)
  have ht : (b.takeWhile plain ++ rest).take k = (b.takeWhile plain).take k :=
    List.take_append_of_le_length hk
  rw [hrest] at ht
  have hp : ∀ c ∈ b.take k, plain c = true := by
    intro c hc
    rw [ht] at hc
    exact List.all_eq_true.mp List.all_takeWhile c (List.mem_of_mem_take hc)
  have hcut : Cut a (b.take k) := by
    apply Cut.left (d := b.drop k)
    rwa [List.take_append_drop]
  constructor
  · obtain hn | ⟨init, c, hc⟩ := List.eq_nil_or_concat (b.take k)
    · have hd : b.drop k = b := by simpa [hn] using List.take_append_drop k b
      rwa [hn, hd, List.append_nil]
    · rw [hc, List.concat_eq_append, ← List.append_assoc]
      exact .of_plain (hp c (by simp [hc])) _ _
  · rw [breaks_append hcut, (breaks_eq_nil _).mpr hp, List.append_nil]

end CodeAtlas.Document
