import CodeAtlas.Proofs.Document.Slices

namespace CodeAtlas.Document

def lineBreaks : List (List Char) := [['\r'], ['\n'], ['\r', '\n']]

/-- How many carriage returns have a line feed right after them. -/
def pairCount (text : List Char) : Nat := (text.zip text.tail).count ('\r', '\n')

/-- Lines that start and end at these offsets make up a text, with one break
between each two of them and no pair of characters that is two breaks. -/
structure Divides (text : List Char) (starts ends : List Nat) : Prop where
  alike : starts.length = ends.length
  first : starts.head? = some 0
  last : ends.getLast? = some text.length
  forward : ∀ i start stop : Nat, starts[i]? = some start → ends[i]? = some stop → start ≤ stop
  apart : ∀ i stop next : Nat, ends[i]? = some stop → starts[i + 1]? = some next → stop < next
  line : ∀ i start stop : Nat, starts[i]? = some start → ends[i]? = some stop →
    ∀ c ∈ between text start stop, c ≠ '\r' ∧ c ≠ '\n'
  gap : ∀ i stop next : Nat, ends[i]? = some stop → starts[i + 1]? = some next →
    between text stop next ∈ lineBreaks
  whole : ∀ o : Nat, text[o]? = some '\r' → text[o + 1]? = some '\n' →
    ∃ i, ends[i]? = some o ∧ starts[i + 1]? = some (o + 2)
  count : starts.length + pairCount text = 1 + text.count '\r' + text.count '\n'

variable {text : List Char} {n i : Nat}

theorem length_lineStarts (text : List Char) :
    (lineStarts text).length = (breaks 0 text).length + 1 := by simp [lineStarts]

theorem length_lineEnds (text : List Char) :
    (lineEnds text).length = (breaks 0 text).length + 1 := by simp [lineEnds]

theorem exists_line (hi : i < (lineStarts text).length) :
    ∃ a b, text = a ++ b ∧ (lineStarts text)[i]? = some a.length ∧
      (lineEnds text)[i]? = some (a.length + lineRest b) := by
  have hbreaks : i ≤ (breaks 0 text).length := by
    rw [length_lineStarts] at hi
    omega
  obtain ⟨a, b, rfl, hcut, rfl, hstart⟩ := exists_lineStart hbreaks
  refine ⟨a, b, rfl, ?_, ?_⟩
  · have h := lineStarts_cut hcut
    rw [List.getD_eq_getElem?_getD, List.getElem?_eq_getElem hi, hstart, Nat.zero_add] at h
    rw [List.getElem?_eq_getElem hi]
    exact congrArg some h
  · have hi' : (breaks 0 a).length < (lineEnds (a ++ b)).length := by
      rw [length_lineEnds, ← length_lineStarts]
      exact hi
    have h := lineEnds_cut hcut
    rw [List.getD_eq_getElem?_getD, List.getElem?_eq_getElem hi'] at h
    rw [List.getElem?_eq_getElem hi']
    exact congrArg some h

theorem line_between {start stop : Nat} (hs : (lineStarts text)[i]? = some start)
    (he : (lineEnds text)[i]? = some stop) :
    start ≤ stop ∧ ∀ c ∈ between text start stop, plain c = true := by
  obtain ⟨a, b, htext, hstart, hstop⟩ := exists_line (List.getElem?_eq_some_iff.mp hs).1
  obtain rfl : a.length = start := Option.some.inj (hstart.symm.trans hs)
  obtain rfl : a.length + lineRest b = stop := Option.some.inj (hstop.symm.trans he)
  refine ⟨Nat.le_add_right _ _, fun c hc => ?_⟩
  have hline : between text a.length (a.length + lineRest b : Nat) = b.takeWhile plain := by
    rw [between_natCast, htext, List.take_length_add_append, List.drop_left]
    exact (List.prefix_iff_eq_take.mp (List.takeWhile_prefix plain)).symm
  rw [hline] at hc
  exact List.all_eq_true.mp List.all_takeWhile c hc

theorem exists_break {stop next : Nat} (h : (stop, next) ∈ breaks n text) :
    ∃ x g y, text = x ++ g ++ y ∧ g ∈ lineBreaks ∧ stop = n + x.length ∧
      next = stop + g.length := by
  induction n, text using breaks.induct with
  | case1 n => simp [breaks] at h
  | case2 n rest ih =>
      rw [breaks_pair] at h
      obtain he | h := List.mem_cons.mp h
      · obtain ⟨rfl, rfl⟩ := Prod.mk.inj he
        exact ⟨[], ['\r', '\n'], rest, rfl, by simp [lineBreaks], rfl, rfl⟩
      · obtain ⟨x, g, y, rfl, hg, rfl, rfl⟩ := ih h
        exact ⟨'\r' :: '\n' :: x, g, y, rfl, hg, by simp only [List.length_cons]; omega, rfl⟩
  | case3 n c rest hne hb ih =>
      have hp : plain c = false := by obtain rfl | rfl := hb <;> rfl
      rw [breaks_cons (cut_of_unpaired hne), hp] at h
      obtain he | h := List.mem_cons.mp h
      · obtain ⟨rfl, rfl⟩ := Prod.mk.inj he
        refine ⟨[], [c], rest, rfl, ?_, rfl, rfl⟩
        obtain rfl | rfl := hb <;> simp [lineBreaks]
      · obtain ⟨x, g, y, rfl, hg, rfl, rfl⟩ := ih h
        exact ⟨c :: x, g, y, rfl, hg, by simp only [List.length_cons]; omega, rfl⟩
  | case4 n c rest hne hb ih =>
      have hp : plain c = true := by simpa [plain] using hb
      rw [breaks_cons (cut_of_unpaired hne), hp] at h
      obtain ⟨x, g, y, rfl, hg, rfl, rfl⟩ := ih h
      exact ⟨c :: x, g, y, rfl, hg, by simp only [List.length_cons]; omega, rfl⟩

theorem break_iff {stop next : Nat} : (breaks 0 text)[i]? = some (stop, next) ↔
    (lineEnds text)[i]? = some stop ∧ (lineStarts text)[i + 1]? = some next := by
  rw [lineStarts, List.getElem?_cons_succ, List.getElem?_map]
  cases hb : (breaks 0 text)[i]? with
  | none => simp
  | some e =>
      have hlt : i < (breaks 0 text).length := (List.getElem?_eq_some_iff.mp hb).1
      rw [lineEnds, List.getElem?_append_left (by simpa using hlt), List.getElem?_map, hb]
      simp [Prod.ext_iff]

theorem exists_gap {stop next : Nat} (hs : (lineEnds text)[i]? = some stop)
    (hn : (lineStarts text)[i + 1]? = some next) :
    stop < next ∧ between text stop next ∈ lineBreaks := by
  obtain ⟨x, g, y, htext, hg, rfl, rfl⟩ :=
    exists_break (List.mem_of_getElem? (break_iff.mpr ⟨hs, hn⟩))
  have hpos : 0 < g.length := by
    simp only [lineBreaks, List.mem_cons, List.not_mem_nil, or_false] at hg
    obtain rfl | rfl | rfl := hg <;> simp
  have htake : text.take (x.length + g.length) = x ++ g := by
    rw [htext, ← List.length_append, List.take_left]
  rw [between_natCast, Nat.zero_add, htake, List.drop_left]
  exact ⟨by omega, hg⟩

theorem exists_break_of_pair {o : Nat} (hcr : text[o]? = some '\r')
    (hlf : text[o + 1]? = some '\n') : ∃ i : Nat, (breaks 0 text)[i]? = some (o, o + 2) := by
  obtain ⟨ho, hcr⟩ := List.getElem?_eq_some_iff.mp hcr
  obtain ⟨ho', hlf⟩ := List.getElem?_eq_some_iff.mp hlf
  have hdrop : text.drop o = '\r' :: '\n' :: text.drop (o + 2) := by
    rw [List.drop_eq_getElem_cons ho, List.drop_eq_getElem_cons ho', hcr, hlf]
  have hlength : (text.take o).length = o := List.length_take_of_le (Nat.le_of_lt ho)
  -- No pair ends in a carriage return, so the scan comes to this one from a fresh start.
  have hcut : Cut (text.take o) ('\r' :: '\n' :: text.drop (o + 2)) := by simp [Cut]
  have hbreaks := breaks_append hcut 0
  rw [← hdrop, List.take_append_drop, hdrop, hlength, Nat.zero_add, breaks_pair] at hbreaks
  exact ⟨(breaks 0 (text.take o)).length, by simp [hbreaks]⟩

theorem pairCount_cons (c : Char) (text : List Char) :
    pairCount (c :: text) =
      (if c = '\r' ∧ text.head? = some '\n' then 1 else 0) + pairCount text := by
  cases text with
  | nil => simp [pairCount]
  | cons d rest =>
      simp only [pairCount, List.tail_cons, List.zip_cons_cons, List.count_cons, List.head?_cons]
      simp [Nat.add_comm]

theorem length_breaks (n : Nat) (text : List Char) :
    (breaks n text).length + pairCount text = text.count '\r' + text.count '\n' := by
  induction n, text using breaks.induct with
  | case1 n => rfl
  | case2 n rest ih =>
      have hpair : pairCount ('\r' :: '\n' :: rest) = 1 + pairCount rest := by
        simp [pairCount_cons]
      simp [hpair]
      omega
  | case3 n c rest hne hb ih =>
      have hcut : Cut [c] rest := cut_of_unpaired hne
      have hpair : pairCount (c :: rest) = pairCount rest := by
        rw [pairCount_cons, if_neg, Nat.zero_add]
        simpa [Cut] using hcut
      rw [hpair, breaks_cons hcut]
      obtain rfl | rfl := hb <;> simp [plain] <;> omega
  | case4 n c rest hne hb ih =>
      have hcut : Cut [c] rest := cut_of_unpaired hne
      obtain ⟨hlf, hcr⟩ := not_or.mp hb
      have hp : plain c = true := by simp [plain, hlf, hcr]
      rw [pairCount_cons, if_neg (fun h => hcr h.1), breaks_cons hcut, hp]
      simpa [List.count_cons, hlf, hcr] using ih

/-- Lines and breaks by turns make up every text, and there is one line more
than there are breaks. -/
theorem divides_lineBounds (text : List Char) :
    Divides text (lineStarts text) (lineEnds text) where
  alike := by rw [length_lineStarts, length_lineEnds]
  first := rfl
  last := by simp [lineEnds]
  forward _ _ _ hs he := (line_between hs he).1
  apart _ _ _ he hn := (exists_gap he hn).1
  line _ _ _ hs he := by
    intro c hc
    have hp := (line_between hs he).2 c hc
    simpa [plain, and_comm] using hp
  gap _ _ _ he hn := (exists_gap he hn).2
  whole o hcr hlf := by
    obtain ⟨i, hi⟩ := exists_break_of_pair hcr hlf
    exact ⟨i, break_iff.mp hi⟩
  count := by
    rw [length_lineStarts, Nat.add_right_comm, length_breaks]
    omega

example : lineStarts "\r\r\n\n".toList = [0, 1, 3, 4] ∧
    lineEnds "\r\r\n\n".toList = [0, 1, 3, 4] := by decide

end CodeAtlas.Document
