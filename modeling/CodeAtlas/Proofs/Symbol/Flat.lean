import CodeAtlas.Proofs.Fallible
import CodeAtlas.Symbol

namespace CodeAtlas

namespace Symbol

/-- As symbols are read: named, with all below them, and in a named container
if they tell of one. -/
inductive Named : Symbol → Prop
  | mk {name : Json} {kind : Int} {range selection : Range} {children : List Symbol}
      {containerName : Json} (hn : name.truthy = true)
      (hc : containerName.truthy = true ∨ containerName = .null)
      (hs : ∀ child ∈ children, Named child) :
      Named ⟨name, kind, range, selection, children, containerName⟩

theorem truthy_orElse_text {j : Json} {name : String} (h : name ≠ "") :
    (j.orElse (.text name)).truthy = true := by
  unfold Json.orElse
  split <;> simp_all [Json.truthy]

theorem truthy_orElse_null (j : Json) :
    (j.orElse .null).truthy = true ∨ j.orElse .null = .null := by
  unfold Json.orElse
  split <;> simp_all

mutual

theorem named_of_ofJson : ∀ {j : Json} {s : Symbol}, ofJson j = .ok s → Named s
  | .object fields, s, h => by
      simp only [ofJson] at h
      split at h
      · split at h
        all_goals
          obtain ⟨range, -, h⟩ := bind_eq_ok.mp h
          obtain ⟨kind, -, h⟩ := bind_eq_ok.mp h
          obtain rfl := Except.ok.inj h
          exact .mk (truthy_orElse_text (by decide)) (truthy_orElse_null _) (by simp)
      · obtain ⟨kind, -, h⟩ := bind_eq_ok.mp h
        obtain ⟨range, -, h⟩ := bind_eq_ok.mp h
        obtain ⟨selection, -, h⟩ := bind_eq_ok.mp h
        obtain ⟨children, hchildren, h⟩ := bind_eq_ok.mp h
        obtain rfl := Except.ok.inj h
        exact .mk (truthy_orElse_text (by decide)) (.inr rfl) (named_of_members hchildren)
  | .text _, _, h | .unpaired _, _, h | .list _, _, h | .null, _, h | .bool _, _, h | .int _, _, h
  | .real _, _, h => by simp [ofJson] at h

theorem named_of_members : ∀ {fields : List (String × Json)} {ss : List Symbol},
    members fields = .ok ss → ∀ s ∈ ss, Named s
  | [], ss, h => by
      obtain rfl : [] = ss := Except.ok.inj h
      simp
  | (k, v) :: rest, ss, h => by
      rw [members] at h
      split at h
      · exact named_of_sent h
      · exact named_of_members h

theorem named_of_sent : ∀ {j : Json} {ss : List Symbol}, sent j = .ok ss → ∀ s ∈ ss, Named s
  | .list items, ss, h => named_of_each (by simpa [sent] using h)
  | .text _, ss, h | .unpaired _, ss, h | .object _, ss, h | .null, ss, h | .bool _, ss, h
  | .int _, ss, h | .real _, ss, h => by
      simp only [sent] at h
      split at h
      · obtain rfl : [] = ss := Except.ok.inj h
        simp
      · simp at h

theorem named_of_each : ∀ {js : List Json} {ss : List Symbol}, each js = .ok ss → ∀ s ∈ ss, Named s
  | [], ss, h => by
      obtain rfl : [] = ss := Except.ok.inj h
      simp
  | j :: rest, ss, h => by
      rw [each] at h
      obtain ⟨first, hfirst, h⟩ := bind_eq_ok.mp h
      obtain ⟨others, hothers, h⟩ := bind_eq_ok.mp h
      obtain rfl : first :: others = ss := Except.ok.inj h
      exact List.forall_mem_cons.mpr ⟨named_of_ofJson hfirst, named_of_each hothers⟩

end

theorem walkAll_eq (ancestors symbols : List Symbol) :
    walkAll ancestors symbols = symbols.flatMap (walkOne ancestors) := by
  induction symbols with
  | nil => rfl
  | cons s rest ih => rw [walkAll, ih, List.flatMap_cons]

variable {s : Symbol} {symbols ancestors : List Symbol} {entry : Symbol × List Symbol}

theorem Named.walkOne (h : Named s) (ha : ∀ a ∈ ancestors, Named a)
    (he : entry ∈ s.walkOne ancestors) : Named entry.1 ∧ ∀ a ∈ entry.2, Named a := by
  induction h generalizing ancestors with
  | @mk name kind range selection children containerName hn hc hs ih =>
      rw [Symbol.walkOne, walkAll_eq] at he
      obtain rfl | he := List.mem_cons.mp he
      · exact ⟨.mk hn hc hs, ha⟩
      · obtain ⟨child, hchild, he⟩ := List.mem_flatMap.mp he
        apply ih child hchild _ he
        rw [List.forall_mem_append]
        exact ⟨ha, by simpa using Named.mk hn hc hs⟩

theorem named_of_mem_walk (h : ∀ s ∈ symbols, Named s) (he : entry ∈ walk symbols) :
    Named entry.1 ∧ ∀ a ∈ entry.2, Named a := by
  rw [walk, walkAll_eq] at he
  obtain ⟨s, hs, he⟩ := List.mem_flatMap.mp he
  exact (h s hs).walkOne (by simp) he

/-- The name of the nearest container, else the one that the symbol gives. -/
def ownerOf (entry : Symbol × List Symbol) : Json :=
  ((entry.2.reverse.find? isContainer).map name).getD entry.1.containerName

def flat (entry : Symbol × List Symbol) : Symbol :=
  ⟨entry.1.name, entry.1.kind, entry.1.range, entry.1.range, [], ownerOf entry⟩

def flatEntry (entry : Symbol × List Symbol) : Symbol × List Symbol := (flat entry, [])

def flatOutline (symbols : List Symbol) : List Symbol := (walk symbols).map flat

def toFlatJson (uri : Json) (entry : Symbol × List Symbol) : Json :=
  .object ([("name", entry.1.name), ("kind", .int entry.1.kind),
      ("location", .object [("uri", uri), ("range", entry.1.range.toJson)])] ++
    if (ownerOf entry).truthy then [("containerName", ownerOf entry)] else [])

theorem Named.name_truthy (h : Named s) : s.name.truthy = true := by
  cases h with
  | mk hn _ _ => exact hn

theorem Named.containerName_truthy (h : Named s) :
    s.containerName.truthy = true ∨ s.containerName = .null := by
  cases h with
  | mk _ hc _ => exact hc

theorem ownerOf_none (h : entry.2.reverse.find? isContainer = none) :
    ownerOf entry = entry.1.containerName := by rw [ownerOf, h]; rfl

theorem ownerOf_some {a : Symbol} (h : entry.2.reverse.find? isContainer = some a) :
    ownerOf entry = a.name := by rw [ownerOf, h]; rfl

theorem Named.of_find? {a : Symbol} (ha : ∀ a ∈ ancestors, Named a)
    (h : ancestors.reverse.find? isContainer = some a) : Named a :=
  ha a (List.mem_reverse.mp (List.mem_of_find?_eq_some h))

theorem ownerOf_named (h : Named entry.1) (ha : ∀ a ∈ entry.2, Named a) :
    (ownerOf entry).truthy = true ∨ ownerOf entry = .null := by
  cases hfind : entry.2.reverse.find? isContainer with
  | none =>
      rw [ownerOf_none hfind]
      exact h.containerName_truthy
  | some a =>
      rw [ownerOf_some hfind]
      exact .inl (Named.of_find? ha hfind).name_truthy

theorem orElse_null {j : Json} (h : j.truthy = true ∨ j = .null) :
    (if j.truthy then j else .null).orElse .null = j := by
  obtain h | rfl := h
  · simp [Json.orElse, h]
  · rfl

theorem ofJson_toFlatJson (uri : Json) (h : Named entry.1) (ha : ∀ a ∈ entry.2, Named a) :
    ofJson (toFlatJson uri entry) = .ok (flat entry) := by
  have hread : ofJson (toFlatJson uri entry) = .ok { flat entry with
      name := entry.1.name.orElse (.text unknownName)
      containerName := (if (ownerOf entry).truthy then ownerOf entry else .null).orElse .null } := by
    unfold toFlatJson
    split <;> rfl
  have hname : entry.1.name.orElse (.text unknownName) = entry.1.name := if_pos h.name_truthy
  rw [hread, hname, orElse_null (ownerOf_named h ha)]
  rfl

theorem walk_flatOutline (symbols : List Symbol) :
    walk (flatOutline symbols) = (walk symbols).map flatEntry := by
  rw [walk, walkAll_eq, flatOutline, List.flatMap_map, List.map_eq_flatMap]
  congr 1

theorem better_flatEntry (best : Option (Symbol × List Symbol)) (target : Range)
    (entry : Symbol × List Symbol) :
    better (best.map flatEntry) target (flatEntry entry) =
      (better best target entry).map flatEntry := by
  have hc : (flatEntry entry).1.isCallable = entry.1.isCallable := rfl
  have hr (e : Symbol × List Symbol) : (flatEntry e).1.range = e.1.range := rfl
  cases best with
  | none =>
      simp only [better, Option.map_none, hc, hr]
      split <;> rfl
  | some b =>
      simp only [better, Option.map_some, hc, hr]
      split
      · rfl
      · split <;> rfl

theorem enclosing?_flatOutline (symbols : List Symbol) (target : Range) :
    enclosing? (flatOutline symbols) target = (enclosing? symbols target).map flatEntry := by
  have go (entries : List (Symbol × List Symbol)) (best : Option (Symbol × List Symbol)) :
      (entries.map flatEntry).foldl (fun best entry => better best target entry)
          (best.map flatEntry) =
        (entries.foldl (fun best entry => better best target entry) best).map flatEntry := by
    induction entries generalizing best with
    | nil => rfl
    | cons first rest ih =>
        rw [List.map_cons, List.foldl_cons, better_flatEntry, ih]
        rfl
  rw [enclosing?, walk_flatOutline]
  exact go (walk symbols) none

theorem qualifiedName_flat (ha : ∀ a ∈ entry.2, Named a) (fileStem : Except Failure String) :
    (flat entry).qualifiedName [] fileStem = entry.1.qualifiedName entry.2 fileStem := by
  cases hfind : entry.2.reverse.find? isContainer with
  | none =>
      simp only [qualifiedName, hfind, flat, ownerOf_none hfind]
      rfl
  | some a =>
      have hname : a.name.truthy = true := (Named.of_find? ha hfind).name_truthy
      simp [qualifiedName, hfind, flat, ownerOf_some hfind, hname, qualifiedBy]

end Symbol

end CodeAtlas
