import CodeAtlas.Proofs.Client.Outcome
import CodeAtlas.Proofs.Symbol.Flat
import Mathlib.Data.List.Forall2

namespace CodeAtlas.Symbol

/-- Items that hold further ones and have no location of their own, all the way down. -/
inductive Nested : Json → Prop
  | mk {fields : List (String × Json)} (hl : fields.lookup "location" = none)
      (hs : ∀ items, fields.lookup "children" = some (.list items) → ∀ item ∈ items, Nested item) :
      Nested (.object fields)

def containerOf (ancestors : List Symbol) : Option Json :=
  (ancestors.reverse.find? isContainer).map name

/-- The fields of a flat entry with a symbol's name, kind and range. It names
the nearest container around the symbol, and none if there is none. -/
structure Lists (fields : List (String × Json)) (entry : Symbol × List Symbol) : Prop where
  name : ((fields.lookup "name").getD .null).orElse (.text unknownName) = entry.1.name
  kind : (fields.lookup "kind").elim (.ok 0) Json.toInteger = .ok entry.1.kind
  range : ∃ location range, fields.lookup "location" = some (.object location) ∧
    location.lookup "range" = some range ∧ Range.ofJson range = .ok entry.1.range
  container : fields.lookup "containerName" = containerOf entry.2

theorem each_eq (items : List Json) : each items = items.mapM ofJson := by
  induction items with
  | nil => rfl
  | cons item rest ih => rw [each, List.mapM_cons, ih]

theorem members_eq (fields : List (String × Json)) :
    members fields = (fields.lookup "children").elim (.ok []) sent := by
  induction fields with
  | nil => rfl
  | cons field rest ih =>
      obtain ⟨k, v⟩ := field
      rw [members, List.lookup_cons]
      split
      next h => simp [h]
      next h => simp [beq_eq_false_iff_ne.mpr h, ih]

theorem sent_ok {j : Json} {symbols : List Symbol} (h : sent j = .ok symbols) :
    symbols = [] ∨ ∃ items, j = .list items ∧ items.mapM ofJson = .ok symbols := by
  cases j with
  | list items => exact .inr ⟨items, rfl, by rw [← each_eq]; simpa [sent] using h⟩
  | _ =>
      simp only [sent] at h
      split at h
      · exact .inl (Except.ok.inj h).symm
      · cases h

theorem members_ok {fields : List (String × Json)} {symbols : List Symbol}
    (h : members fields = .ok symbols) :
    symbols = [] ∨ ∃ items, fields.lookup "children" = some (.list items) ∧
      items.mapM ofJson = .ok symbols := by
  rw [members_eq] at h
  cases hc : fields.lookup "children" with
  | none =>
      rw [hc] at h
      exact .inl (Except.ok.inj h).symm
  | some j =>
      rw [hc] at h
      obtain hnil | ⟨items, rfl, hitems⟩ := sent_ok h
      · exact .inl hnil
      · exact .inr ⟨items, rfl, hitems⟩

theorem Nested.containerName {j : Json} (h : Nested j) {s : Symbol} {ancestors : List Symbol}
    (hr : ofJson j = .ok s) : ∀ entry ∈ s.walkOne ancestors, entry.1.containerName = .null := by
  induction h generalizing s ancestors with
  | @mk fields hl hs ih =>
      simp only [ofJson, hl] at hr
      obtain ⟨kind, -, hr⟩ := bind_eq_ok.mp hr
      obtain ⟨range, -, hr⟩ := bind_eq_ok.mp hr
      obtain ⟨selection, -, hr⟩ := bind_eq_ok.mp hr
      obtain ⟨children, hchildren, hr⟩ := bind_eq_ok.mp hr
      obtain rfl := Except.ok.inj hr
      rw [walkOne, walkAll_eq, List.forall_mem_cons]
      refine ⟨rfl, fun entry he => ?_⟩
      obtain ⟨child, hchild, he⟩ := List.mem_flatMap.mp he
      obtain rfl | ⟨items, hitems, hread⟩ := members_ok hchildren
      · cases hchild
      · obtain ⟨item, hitem, hread⟩ := Client.mem_of_mapM hread child hchild
        exact ih items hitems item hitem hread entry he

theorem containerName_of_mem_walk {items : List Json} {symbols : List Symbol}
    (hn : ∀ item ∈ items, Nested item) (hr : items.mapM ofJson = .ok symbols) :
    ∀ entry ∈ walk symbols, entry.1.containerName = .null := by
  intro entry he
  rw [walk, walkAll_eq] at he
  obtain ⟨s, hs, he⟩ := List.mem_flatMap.mp he
  obtain ⟨item, hitem, hread⟩ := Client.mem_of_mapM hr s hs
  exact (hn item hitem).containerName hread entry he

variable {fields : List (String × Json)} {entry : Symbol × List Symbol}

theorem ownerOf_eq (h : entry.1.containerName = .null) :
    ownerOf entry = (containerOf entry.2).getD .null := by rw [ownerOf, h]; rfl

theorem ofJson_lists (h : Lists fields entry) (hc : entry.1.containerName = .null)
    (hn : Named entry.1) (ha : ∀ a ∈ entry.2, Named a) :
    ofJson (.object fields) = .ok (flat entry) := by
  obtain ⟨location, range, hlocation, hrange, hread⟩ := h.range
  have htruthy : (Json.object location).truthy = true := by
    cases location with
    | nil => cases hrange
    | cons => rfl
  have howner : ((fields.lookup "containerName").getD .null).orElse .null = ownerOf entry := by
    rw [h.container, ← ownerOf_eq hc]
    obtain htrue | hnull := ownerOf_named hn ha
    · rw [Json.orElse, if_pos htrue]
    · rw [hnull]
      rfl
  simp only [ofJson, hlocation, htruthy, if_true, h.name, Json.field, hrange, howner]
  refine bind_eq_ok.mpr ⟨_, hread, bind_eq_ok.mpr ⟨_, ?_, rfl⟩⟩
  rw [← h.kind]
  cases fields.lookup "kind" <;> rfl

theorem mapM_lists {listed : List (List (String × Json))} {entries : List (Symbol × List Symbol)}
    (h : List.Forall₂ Lists listed entries)
    (hc : ∀ entry ∈ entries, entry.1.containerName = .null)
    (hn : ∀ entry ∈ entries, Named entry.1 ∧ ∀ a ∈ entry.2, Named a) :
    (listed.map Json.object).mapM ofJson = .ok (entries.map flat) := by
  induction h with
  | nil => rfl
  | cons hfirst _ ih =>
      obtain ⟨hc, hcs⟩ := List.forall_mem_cons.mp hc
      obtain ⟨⟨hn, ha⟩, hns⟩ := List.forall_mem_cons.mp hn
      rw [List.map_cons, List.mapM_cons, ofJson_lists hfirst hc hn ha, ih hcs hns]
      rfl

end CodeAtlas.Symbol
