import CodeAtlas.Proofs.CallTrace.Flattened
import CodeAtlas.Proofs.Symbol.Listed

namespace CodeAtlas

/-- What the outlines of a document tell alike of a function. -/
def CallTarget.whereabouts (target : CallTarget) : Name × Name × Range :=
  (target.name, target.uri, target.range)

namespace CallTrace

open Client

variable {σ : Type} {items : List Json} {symbols : List Symbol}
  {listed : List (List (String × Json))}

/-- A server that gives one outline whatever the document is. -/
def outlining (w : World σ) (outline : Json) : World σ :=
  { w with request := fun method params state =>
      let turn := w.request method params state
      if method = outlineMethod then { turn with result := .ok outline } else turn }

theorem request_outlining (w : World σ) (outline params : Json) (state : σ) :
    (outlining w outline).request outlineMethod params state =
      { w.request outlineMethod params state with result := .ok outline } := by
  simp [outlining]

theorem objects_nested (hn : ∀ item ∈ items, Symbol.Nested item) :
    objects (.list items) = items := by
  rw [objects, entries, List.filter_eq_self]
  intro item hm
  obtain ⟨-, -⟩ := hn item hm
  rfl

theorem givesFlat_outlining (w : World σ) (hn : ∀ item ∈ items, Symbol.Nested item)
    (hr : items.mapM Symbol.ofJson = .ok symbols)
    (hl : List.Forall₂ Symbol.Lists listed (Symbol.walk symbols)) :
    GivesFlat (outlining w (.list items)) (outlining w (.list (listed.map .object))) := by
  refine ⟨rfl, fun params state => ⟨fun _ => .list (listed.map .object), ?_, ?_⟩⟩
  · rw [request_outlining, request_outlining]
    rfl
  · intro reply hreply
    rw [request_outlining] at hreply
    obtain rfl : .list items = reply := Except.ok.inj hreply
    rw [objects_nested hn, hr, objects_list fun _ _ => rfl]
    exact Symbol.mapM_lists hl (Symbol.containerName_of_mem_walk hn hr)
      fun entry he => Symbol.named_of_mem_walk (named_of_mapM hr) he

/-- A nested outline and a flat list of the same symbols lead to the same
function from every place in every document, or both to none. -/
theorem targetFor_listed (w : World σ) (hn : ∀ item ∈ items, Symbol.Nested item)
    (hr : items.mapM Symbol.ofJson = .ok symbols)
    (hl : List.Forall₂ Symbol.Lists listed (Symbol.walk symbols)) (l : Location) (s : Session σ) :
    outcome (Option.map CallTarget.whereabouts <$>
        targetFor (outlining w (.list (listed.map .object))) l) s =
      outcome (Option.map CallTarget.whereabouts <$> targetFor (outlining w (.list items)) l) s := by
  rw [targetFor_flat (givesFlat_outlining w hn hr hl), Functor.map_map]
  simp only [Option.map_map]
  rfl

def item (name : String) (kind : Int) (first last : Int) (children : List Json) : Json := .object
  [("name", .text name), ("kind", .int kind), ("range", (Range.mk ⟨first, 0⟩ ⟨last, 0⟩).toJson),
    ("children", .list children)]

def flatItem (name : String) (kind : Int) (first last : Int) (container : Option String) :
    List (String × Json) :=
  [("name", .text name), ("kind", .int kind), ("location", .object
    [("uri", .text "file:///m"), ("range", (Range.mk ⟨first, 0⟩ ⟨last, 0⟩).toJson)])] ++
  container.toList.map fun name => ("containerName", .text name)

/-- A class, a method of it and a function inside of the method. -/
def inner (name : String) : List Json := [item name 5 0 9 [item "f" 6 0 3 [item "g" 12 1 2 []]]]

def innerRows (name container : String) : List (List (String × Json)) :=
  [flatItem name 5 0 9 none, flatItem "f" 6 0 3 (some container),
    flatItem "g" 12 1 2 (some container)]

theorem nested_item {name : String} {kind first last : Int} {children : List Json}
    (h : ∀ child ∈ children, Symbol.Nested child) :
    Symbol.Nested (item name kind first last children) := by
  refine .mk rfl fun items hitems => ?_
  obtain rfl : children = items := by simpa [List.lookup_cons] using hitems
  exact h

theorem nested_inner (name : String) : ∀ item ∈ inner name, Symbol.Nested item := by
  simp only [inner, List.forall_mem_singleton]
  refine nested_item ?_
  simp only [List.forall_mem_singleton]
  refine nested_item ?_
  simp only [List.forall_mem_singleton]
  exact nested_item (by simp)

theorem lists_innerRows : ∃ symbols, (inner "").mapM Symbol.ofJson = .ok symbols ∧
    List.Forall₂ Symbol.Lists (innerRows "" "<unknown>") (Symbol.walk symbols) := by
  refine ⟨_, rfl, .cons ?_ (.cons ?_ (.cons ?_ .nil))⟩ <;>
    exact ⟨rfl, rfl, ⟨_, _, rfl, rfl, rfl⟩, rfl⟩

def inside : Location := ⟨.text "file:///m", .point ⟨1, 0⟩⟩

theorem targetFor_inner : ∃ found t,
    outcome (targetFor (outlining Script.diamond.world (.list (inner ""))) inside) (.start ()) =
      (.ok found, t) ∧
    found.map CallTarget.name = some "<unknown>.g" := exists_result (by decide +kernel)

theorem targetFor_listed_inner : ∃ found t,
    outcome (targetFor (outlining Script.diamond.world (.list (inner ""))) inside) (.start ()) =
      (.ok (some found), t) ∧
    found.name = "<unknown>.g" ∧
    outcome (Option.map CallTarget.whereabouts <$> targetFor (outlining Script.diamond.world
      (.list ((innerRows "" "<unknown>").map .object))) inside) (.start ()) =
      (.ok (some found.whereabouts), t) := by
  obtain ⟨_, t, h, hfound⟩ := targetFor_inner
  obtain ⟨found, rfl, hname⟩ := Option.map_eq_some_iff.mp hfound
  obtain ⟨symbols, hr, hl⟩ := lists_innerRows
  refine ⟨found, t, h, hname, ?_⟩
  rw [targetFor_listed Script.diamond.world (nested_inner "") hr hl, outcome_map, h]
  rfl

/-- A container without a name is known by a placeholder, which a flat outline
that repeats the empty name does not give. -/
theorem empty_container_apart : ∃ found t found' t',
    outcome (targetFor (outlining Script.diamond.world (.list (inner ""))) inside) (.start ()) =
      (.ok found, t) ∧
    outcome (targetFor (outlining Script.diamond.world
      (.list ((innerRows "" "").map .object))) inside) (.start ()) = (.ok found', t') ∧
    found.map CallTarget.name = some "<unknown>.g" ∧ found'.map CallTarget.name = some "m.g" := by
  obtain ⟨found, t, h, hname⟩ := targetFor_inner
  obtain ⟨found', t', h', hname'⟩ : ∃ found t,
      outcome (targetFor (outlining Script.diamond.world
        (.list ((innerRows "" "").map .object))) inside) (.start ()) = (.ok found, t) ∧
      found.map CallTarget.name = some "m.g" := exists_result (by decide +kernel)
  exact ⟨found, t, found', t', h, h', hname, hname'⟩

end CallTrace

end CodeAtlas
