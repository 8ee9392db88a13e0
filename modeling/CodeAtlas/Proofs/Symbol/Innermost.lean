import CodeAtlas.Symbol
import CodeAtlas.Proofs.Position.Order

namespace CodeAtlas.Symbol

variable {symbols ancestors : List Symbol} {path : List Nat} {s : Symbol} {target : Range}

/-- At an address in an outline stands a symbol below these ancestors, the
outermost first. The address tells which entry to take on each level. -/
inductive Stands : List Symbol → List Nat → List Symbol → Symbol → Prop
  | top {symbols : List Symbol} {i : Nat} {s : Symbol} (h : symbols[i]? = some s) :
      Stands symbols [i] [] s
  | inside {symbols ancestors : List Symbol} {i : Nat} {path : List Nat} {parent s : Symbol}
      (h : symbols[i]? = some parent) (hs : Stands parent.children path ancestors s) :
      Stands symbols (i :: path) (parent :: ancestors) s

theorem Stands.unique {ancestors' : List Symbol} {s' : Symbol}
    (h : Stands symbols path ancestors s) (h' : Stands symbols path ancestors' s') :
    ancestors = ancestors' ∧ s = s' := by
  induction h generalizing ancestors' with
  | top h =>
      cases h' with
      | top h' => exact ⟨rfl, Option.some.inj (h.symm.trans h')⟩
      | inside _ hs => cases hs
  | inside h hs ih =>
      cases h' with
      | top => cases hs
      | inside h' hs' =>
          obtain rfl := Option.some.inj (h.symm.trans h')
          obtain ⟨rfl, rfl⟩ := ih hs'
          exact ⟨rfl, rfl⟩

abbrev Place := List Nat × Symbol × List Symbol

mutual

def placesOne (ancestors : List Symbol) : Symbol → List Place
  | ⟨name, kind, range, selection, children, containerName⟩ =>
    let s : Symbol := ⟨name, kind, range, selection, children, containerName⟩
    ([], s, ancestors) :: placesAll (ancestors ++ [s]) 0 children

def placesAll (ancestors : List Symbol) (i : Nat) : List Symbol → List Place
  | [] => []
  | s :: rest =>
    (placesOne ancestors s).map (fun p => (i :: p.1, p.2)) ++ placesAll ancestors (i + 1) rest

end

mutual

theorem placesOne_walk (ancestors : List Symbol) :
    ∀ s : Symbol, (placesOne ancestors s).map Prod.snd = walkOne ancestors s
  | ⟨name, kind, range, selection, children, containerName⟩ => by
      rw [placesOne, walkOne, List.map_cons, placesAll_walk]

theorem placesAll_walk (ancestors : List Symbol) (i : Nat) :
    ∀ symbols : List Symbol, (placesAll ancestors i symbols).map Prod.snd = walkAll ancestors symbols
  | [] => rfl
  | s :: rest => by
      rw [placesAll, walkAll, List.map_append, List.map_map, placesAll_walk, ← placesOne_walk]
      rfl

end

theorem index_of_mem_placesAll {i : Nat} {p : Place} (h : p ∈ placesAll ancestors i symbols) :
    ∃ k rest, p.1 = k :: rest ∧ i ≤ k := by
  induction symbols generalizing i with
  | nil => simp [placesAll] at h
  | cons s rest ih =>
      rw [placesAll] at h
      obtain h | h := List.mem_append.mp h
      · obtain ⟨q, -, rfl⟩ := List.mem_map.mp h
        exact ⟨i, q.1, rfl, Nat.le_refl i⟩
      · obtain ⟨k, others, hp, hk⟩ := ih h
        exact ⟨k, others, hp, Nat.le_of_succ_le hk⟩

mutual

theorem placesOne_ordered (ancestors : List Symbol) :
    ∀ s : Symbol, (placesOne ancestors s).Pairwise fun p q => p.1 < q.1
  | ⟨name, kind, range, selection, children, containerName⟩ => by
      rw [placesOne]
      refine List.pairwise_cons.mpr ⟨fun p hp => ?_, placesAll_ordered _ 0 children⟩
      obtain ⟨k, rest, hp, -⟩ := index_of_mem_placesAll hp
      rw [hp]
      exact List.nil_lt_cons k rest

theorem placesAll_ordered (ancestors : List Symbol) (i : Nat) :
    ∀ symbols : List Symbol, (placesAll ancestors i symbols).Pairwise fun p q => p.1 < q.1
  | [] => .nil
  | s :: rest => by
      rw [placesAll]
      refine List.pairwise_append.mpr ⟨?_, placesAll_ordered ancestors (i + 1) rest, ?_⟩
      · exact List.pairwise_map.mpr ((placesOne_ordered ancestors s).imp fun h => .cons h)
      · intro p hp q hq
        obtain ⟨p, -, rfl⟩ := List.mem_map.mp hp
        obtain ⟨k, others, hq, hk⟩ := index_of_mem_placesAll hq
        rw [hq]
        exact .rel hk

end

theorem Stands.later {i : Nat} (first : Symbol) (h : Stands symbols (i :: path) ancestors s) :
    Stands (first :: symbols) ((i + 1) :: path) ancestors s := by
  cases h with
  | top h => exact .top h
  | inside h hs => exact .inside h hs

mutual

theorem stands_of_mem_placesOne {ancestors : List Symbol} {p : Place} :
    ∀ {s : Symbol}, p ∈ placesOne ancestors s → p = ([], s, ancestors) ∨
      ∃ inner, Stands s.children p.1 inner p.2.1 ∧ p.2.2 = ancestors ++ s :: inner
  | ⟨name, kind, range, selection, children, containerName⟩, h => by
      rw [placesOne] at h
      refine (List.mem_cons.mp h).imp_right fun h => ?_
      obtain ⟨k, rest, inner, hp, ha, hs⟩ := stands_of_mem_placesAll h
      rw [Nat.zero_add] at hp
      exact ⟨inner, hp ▸ hs, by simpa using ha⟩

theorem stands_of_mem_placesAll {ancestors : List Symbol} {i : Nat} {p : Place} :
    ∀ {symbols : List Symbol}, p ∈ placesAll ancestors i symbols → ∃ k rest inner,
      p.1 = (i + k) :: rest ∧ p.2.2 = ancestors ++ inner ∧ Stands symbols (k :: rest) inner p.2.1
  | [], h => by simp [placesAll] at h
  | s :: others, h => by
      rw [placesAll] at h
      obtain h | h := List.mem_append.mp h
      · obtain ⟨q, hq, rfl⟩ := List.mem_map.mp h
        obtain rfl | ⟨inner, hs, ha⟩ := stands_of_mem_placesOne hq
        · exact ⟨0, [], [], rfl, (List.append_nil ancestors).symm, .top rfl⟩
        · exact ⟨0, q.1, s :: inner, rfl, ha, .inside rfl hs⟩
      · obtain ⟨k, rest, inner, hp, ha, hs⟩ := stands_of_mem_placesAll h
        exact ⟨k + 1, rest, inner, by rw [hp, Nat.add_right_comm]; rfl, ha, hs.later s⟩

end

theorem mem_placesAll_of_getElem? {i k : Nat} {p : Place} (h : symbols[k]? = some s)
    (hp : p ∈ placesOne ancestors s) : ((i + k) :: p.1, p.2) ∈ placesAll ancestors i symbols := by
  induction symbols generalizing i k with
  | nil => simp at h
  | cons first rest ih =>
      rw [placesAll, List.mem_append]
      cases k with
      | zero =>
          obtain rfl : first = s := by simpa using h
          exact .inl (List.mem_map_of_mem hp)
      | succ k =>
          have hrest := ih (i := i + 1) (by simpa using h)
          rw [Nat.add_right_comm] at hrest
          exact .inr hrest

theorem placesOne_eq (ancestors : List Symbol) (s : Symbol) :
    placesOne ancestors s =
      ([], s, ancestors) :: placesAll (ancestors ++ [s]) 0 s.children := by
  cases s
  rfl

theorem Stands.mem_placesAll (h : Stands symbols path ancestors s) (above : List Symbol) :
    (path, s, above ++ ancestors) ∈ placesAll above 0 symbols := by
  induction h generalizing above with
  | @top symbols i s h =>
      have hs : ([], s, above) ∈ placesOne above s := by simp [placesOne_eq]
      simpa using mem_placesAll_of_getElem? (i := 0) h hs
  | @inside symbols ancestors i path parent s h _ ih =>
      have hs : (path, s, above ++ [parent] ++ ancestors) ∈ placesOne above parent := by
        rw [placesOne_eq]
        exact List.mem_cons_of_mem _ (ih (above ++ [parent]))
      simpa using mem_placesAll_of_getElem? (i := 0) h hs

theorem mem_placesAll_iff :
    (path, s, ancestors) ∈ placesAll [] 0 symbols ↔ Stands symbols path ancestors s := by
  refine ⟨fun h => ?_, fun h => h.mem_placesAll []⟩
  obtain ⟨k, rest, inner, hp, ha, hs⟩ := stands_of_mem_placesAll h
  obtain rfl : path = k :: rest := by simpa using hp
  obtain rfl : ancestors = inner := ha
  exact hs

/-- A callable in whose range the target lies. -/
def Around (target : Range) (s : Symbol) : Prop :=
  s.isCallable = true ∧ s.range.contains target = true

instance (target : Range) (s : Symbol) : Decidable (Around target s) :=
  inferInstanceAs (Decidable (_ ∧ _))

structure Best (target : Range) (entries : List (Symbol × List Symbol))
    (best : Symbol × List Symbol) (before after : List (Symbol × List Symbol)) : Prop where
  parts : entries = before ++ best :: after
  around : Around target best.1
  least : ∀ e ∈ before, Around target e.1 → best.1.range.span ≤ e.1.range.span
  last : ∀ e ∈ after, Around target e.1 → ¬ e.1.range.span ≤ best.1.range.span

variable {entries before after : List (Symbol × List Symbol)} {entry best : Symbol × List Symbol}

theorem better_of_not_around (best : Option (Symbol × List Symbol))
    (h : ¬ Around target entry.1) : better best target entry = best := by
  have hskip : (!entry.1.isCallable || !entry.1.range.contains target) = true := by
    simpa [Around, Decidable.imp_iff_not_or] using h
  simp only [better, hskip, if_true]

theorem better_none (h : Around target entry.1) : better none target entry = some entry := by
  simp [better, h.1, h.2]

theorem better_some (h : Around target entry.1) :
    better (some best) target entry =
      if entry.1.range.span ≤ best.1.range.span then some entry else some best := by
  simp [better, h.1, h.2]

theorem Best.concat (h : Best target entries best before after)
    (hn : Around target entry.1 → ¬ entry.1.range.span ≤ best.1.range.span) :
    Best target (entries ++ [entry]) best before (after ++ [entry]) where
  parts := by rw [h.parts, List.append_assoc, List.cons_append]
  around := h.around
  least := h.least
  last := List.forall_mem_append.mpr ⟨h.last, by simpa using hn⟩

theorem Best.replaced (h : Best target entries best before after) (ha : Around target entry.1)
    (hle : entry.1.range.span ≤ best.1.range.span) :
    Best target (entries ++ [entry]) entry entries [] where
  parts := rfl
  around := ha
  least e he hae := by
    rw [h.parts] at he
    obtain he | he := List.mem_append.mp he
    · exact Position.le_trans hle (h.least e he hae)
    · obtain rfl | he := List.mem_cons.mp he
      · exact hle
      · exact Position.le_trans hle (Position.le_of_not_le (h.last e he hae))
  last := by simp

def Searched (target : Range) (entries : List (Symbol × List Symbol)) :
    Option (Symbol × List Symbol) → Prop
  | none => ∀ e ∈ entries, ¬ Around target e.1
  | some best => ∃ before after, Best target entries best before after

theorem Searched.better {found : Option (Symbol × List Symbol)} (h : Searched target entries found)
    (entry : Symbol × List Symbol) :
    Searched target (entries ++ [entry]) (better found target entry) := by
  by_cases ha : Around target entry.1
  · cases found with
    | none =>
        rw [better_none ha]
        exact ⟨entries, [], rfl, ha, fun e he hae => absurd hae (h e he), by simp⟩
    | some best =>
        obtain ⟨before, after, hbest⟩ := h
        rw [better_some ha]
        split
        next hle => exact ⟨entries, [], hbest.replaced ha hle⟩
        next hle => exact ⟨before, after ++ [entry], hbest.concat fun _ => hle⟩
  · rw [better_of_not_around found ha]
    cases found with
    | none => exact List.forall_mem_append.mpr ⟨h, by simpa using ha⟩
    | some best =>
        obtain ⟨before, after, hbest⟩ := h
        exact ⟨before, after ++ [entry], hbest.concat fun hae => absurd hae ha⟩

theorem searched_enclosing? (symbols : List Symbol) (target : Range) :
    Searched target (walk symbols) (enclosing? symbols target) := by
  have go (rest met : List (Symbol × List Symbol)) (found : Option (Symbol × List Symbol))
      (h : Searched target met found) : Searched target (met ++ rest)
        (rest.foldl (fun best entry => Symbol.better best target entry) found) := by
    induction rest generalizing met found with
    | nil => simpa using h
    | cons entry rest ih => simpa using ih _ _ (h.better entry)
  exact go (walk symbols) [] none (by simp [Searched])

/-- An innermost callable around a target: none lies properly inside of it,
and none in the same range comes later in depth-first order. -/
structure Innermost (symbols : List Symbol) (target : Range) (path : List Nat)
    (ancestors : List Symbol) (s : Symbol) : Prop where
  stands : Stands symbols path ancestors s
  around : Around target s
  innermost : ∀ path' ancestors' s', Stands symbols path' ancestors' s' → Around target s' →
    s.range.contains s'.range = true → s'.range = s.range
  last : ∀ path' ancestors' s', Stands symbols path' ancestors' s' → Around target s' →
    s'.range = s.range → path' = path ∨ path' < path

theorem Best.places (h : Best target (walk symbols) best before after) :
    ∃ path, Stands symbols path best.2 best.1 ∧
      ∀ path' ancestors' s', Stands symbols path' ancestors' s' →
        ((s', ancestors') ∈ before ∧ path' < path) ∨ path' = path ∨ (s', ancestors') ∈ after := by
  have hwalk : (placesAll [] 0 symbols).map Prod.snd = before ++ best :: after := by
    rw [placesAll_walk]
    exact h.parts
  obtain ⟨earlier, others, hplaces, rfl, hothers⟩ := List.map_eq_append_iff.mp hwalk
  obtain ⟨⟨path, best⟩, later, rfl, rfl, rfl⟩ := List.map_eq_cons_iff.mp hothers
  have hmem : (path, best) ∈ placesAll [] 0 symbols := by rw [hplaces]; simp
  refine ⟨path, mem_placesAll_iff.mp hmem, fun path' ancestors' s' hs => ?_⟩
  have hs := mem_placesAll_iff.mpr hs
  have hordered := placesAll_ordered [] 0 symbols
  rw [hplaces] at hs hordered
  obtain hs | hs := List.mem_append.mp hs
  · have hlt := (List.pairwise_append.mp hordered).2.2 _ hs _ List.mem_cons_self
    exact .inl ⟨List.mem_map_of_mem (f := Prod.snd) hs, hlt⟩
  · obtain hs | hs := List.mem_cons.mp hs
    · exact .inr (.inl (congrArg Prod.fst hs))
    · exact .inr (.inr (List.mem_map_of_mem (f := Prod.snd) hs))

theorem Best.innermost (h : Best target (walk symbols) best before after) :
    ∃ path, Innermost symbols target path best.2 best.1 := by
  obtain ⟨path, hstands, hplaces⟩ := h.places
  refine ⟨path, hstands, h.around, fun path' ancestors' s' hs ha hc => ?_,
    fun path' ancestors' s' hs ha he => ?_⟩
  · have hle : best.1.range.span ≤ s'.range.span := by
      obtain ⟨hbefore, -⟩ | rfl | hafter := hplaces path' ancestors' s' hs
      · exact h.least _ hbefore ha
      · obtain ⟨-, hsame⟩ := hstands.unique hs
        exact hsame ▸ Position.le_refl _
      · exact Position.le_of_not_le (h.last _ hafter ha)
    exact (Range.eq_of_contains hc hle).symm
  · obtain ⟨-, hlt⟩ | rfl | hafter := hplaces path' ancestors' s' hs
    · exact .inr hlt
    · exact .inl rfl
    · exact absurd (he ▸ Position.le_refl _) (h.last _ hafter ha)

/-- Nothing is found only if no callable anywhere in the outline is around
the target; else an innermost one is, with its ancestors. A position is the
range that starts and ends there. -/
theorem enclosing?_innermost (symbols : List Symbol) (target : Range) :
    (enclosing? symbols target = none ↔
      ∀ path ancestors s, Stands symbols path ancestors s → ¬ Around target s) ∧
    ∀ s ancestors, enclosing? symbols target = some (s, ancestors) →
      ∃ path, Innermost symbols target path ancestors s := by
  have hsearched := searched_enclosing? symbols target
  have hmem {path : List Nat} {ancestors : List Symbol} {s : Symbol}
      (hs : Stands symbols path ancestors s) : (s, ancestors) ∈ walk symbols := by
    rw [walk, ← placesAll_walk [] 0]
    exact List.mem_map_of_mem (f := Prod.snd) (mem_placesAll_iff.mpr hs)
  refine ⟨⟨fun hnone path ancestors s hs => ?_, fun hall => ?_⟩, fun s ancestors hsome => ?_⟩
  · rw [hnone] at hsearched
    exact hsearched _ (hmem hs)
  · cases hfound : enclosing? symbols target with
    | none => rfl
    | some best =>
        rw [hfound] at hsearched
        obtain ⟨before, after, hbest⟩ := hsearched
        obtain ⟨path, hinnermost⟩ := hbest.innermost
        exact absurd hinnermost.around (hall _ _ _ hinnermost.stands)
  · rw [hsome] at hsearched
    obtain ⟨before, after, hbest⟩ := hsearched
    exact hbest.innermost

def nestedFunction : Symbol :=
  ⟨.text "body", 12, ⟨⟨2, 2⟩, ⟨8, 3⟩⟩, ⟨⟨2, 2⟩, ⟨2, 6⟩⟩, [], .null⟩

def nestedMethod : Symbol :=
  ⟨.text "run", 6, ⟨⟨2, 2⟩, ⟨8, 3⟩⟩, ⟨⟨2, 7⟩, ⟨2, 10⟩⟩, [nestedFunction], .null⟩

def nestedClass : Symbol :=
  ⟨.text "Worker", 5, ⟨⟨0, 0⟩, ⟨10, 1⟩⟩, ⟨⟨0, 6⟩, ⟨0, 12⟩⟩, [nestedMethod], .null⟩

theorem enclosing?_innermost_nested : ∃ path,
    Around (.point ⟨4, 0⟩) nestedMethod ∧ nestedMethod.range = nestedFunction.range ∧
    Innermost [nestedClass] (.point ⟨4, 0⟩) path [nestedClass, nestedMethod] nestedFunction := by
  obtain ⟨path, hinnermost⟩ := (enclosing?_innermost [nestedClass] (.point ⟨4, 0⟩)).2
    nestedFunction [nestedClass, nestedMethod] rfl
  exact ⟨path, by decide, rfl, hinnermost⟩

end CodeAtlas.Symbol
