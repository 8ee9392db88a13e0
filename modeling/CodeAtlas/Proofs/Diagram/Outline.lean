import CodeAtlas.Diagram
import CodeAtlas.Proofs.Hierarchy.Kinship
import CodeAtlas.Proofs.Listing.Unseen
import Mathlib.Data.List.Nodup

namespace CodeAtlas

namespace TypeGraph

variable {g : TypeGraph} {a b : Label.Key}

theorem Links.symm (h : g.Links a b) : g.Links b a := Or.symm h

/-- There is a way along the edges, each taken in either direction. -/
def Connects (g : TypeGraph) : Label.Key → Label.Key → Prop := Relation.ReflTransGen g.Links

def ends (g : TypeGraph) : List Label.Key :=
  g.root.key :: g.edges.flatMap fun e => [e.parent.key, e.child.key]

theorem length_ends (g : TypeGraph) : g.ends.length = 2 * g.edges.length + 1 := by
  simp [ends, List.length_flatMap, Nat.mul_comm]

theorem Links.mem_ends (h : g.Links a b) : b ∈ g.ends := by
  obtain h | h := h <;> obtain ⟨e, he, hk⟩ := List.mem_map.mp h <;>
    obtain ⟨rfl, rfl⟩ := Prod.mk.inj hk <;>
    exact List.mem_cons_of_mem _ (List.mem_flatMap.mpr ⟨e, he, by simp⟩)

end TypeGraph

namespace Diagram

variable {g : TypeGraph} {level : Nat} {lines after : List OutlineLine} {names : List Label}

theorem exists_related_iff {name : Label} {k : Label.Key} :
    (∃ other ∈ related g name, other.key = k) ↔ g.Links name.key k := by
  simp only [related, TypeGraph.supertypesOf, TypeGraph.subtypesOf, TypeGraph.Links,
    TypeGraph.edgeKeys, TypeEdge.key, List.mem_append, List.mem_map, List.mem_filter,
    decide_eq_true_eq, Prod.mk.injEq]
  constructor
  · rintro ⟨other, ⟨e, ⟨he, hk⟩, rfl⟩ | ⟨e, ⟨he, hk⟩, rfl⟩, rfl⟩
    · exact .inr ⟨e, he, rfl, hk⟩
    · exact .inl ⟨e, he, hk, rfl⟩
  · rintro (⟨e, he, hk, rfl⟩ | ⟨e, he, rfl, hk⟩)
    · exact ⟨e.child, .inr ⟨e, ⟨he, hk⟩, rfl⟩, rfl⟩
    · exact ⟨e.parent, .inl ⟨e, ⟨he, hk⟩, rfl⟩, rfl⟩

theorem links_of_related {name other : Label} (h : other ∈ related g name) :
    g.Links name.key other.key := exists_related_iff.mp ⟨other, h, rfl⟩

def keysOf (lines : List OutlineLine) : List Label.Key := lines.map fun l => l.name.key

@[simp]
theorem keysOf_append (lines more : List OutlineLine) :
    keysOf (lines ++ more) = keysOf lines ++ keysOf more := List.map_append

@[simp]
theorem keysOf_cons (l : OutlineLine) (lines : List OutlineLine) :
    keysOf (l :: lines) = l.name.key :: keysOf lines := rfl

@[simp]
theorem keysOf_nil : keysOf [] = [] := rfl

theorem mem_keysOf {k : Label.Key} : k ∈ keysOf lines ↔ ∃ l ∈ lines, l.name.key = k :=
  List.mem_map

theorem mem_keysOf_concat {name : Label} {k : Label.Key} :
    k ∈ keysOf (lines ++ [⟨level, name⟩]) ↔ k ∈ keysOf lines ∨ k = name.key := by
  simp

/-- The search without a bound: what an outline is after some names were gone
through at a level. -/
inductive Lists (g : TypeGraph) : Nat → List OutlineLine → List Label → List OutlineLine → Prop
  | done (level : Nat) (lines : List OutlineLine) : Lists g level lines [] lines
  | known {level : Nat} {lines after : List OutlineLine} {name : Label} {rest : List Label}
      (hk : name.key ∈ keysOf lines) (hr : Lists g level lines rest after) :
      Lists g level lines (name :: rest) after
  | fresh {level : Nat} {lines mid after : List OutlineLine} {name : Label} {rest : List Label}
      (hk : name.key ∉ keysOf lines)
      (hb : Lists g (level + 1) (lines ++ [⟨level, name⟩]) (related g name) mid)
      (hr : Lists g level mid rest after) : Lists g level lines (name :: rest) after

theorem outlineFrom_known {fuel : Nat} {name : Label} (hk : name.key ∈ keysOf lines) :
    outlineFrom g (fuel + 1) level lines name = lines := by
  have hany : (lines.any fun l => decide (l.name.key = name.key)) = true := by
    simpa [mem_keysOf] using hk
  rw [outlineFrom, if_pos hany]

theorem outlineFrom_fresh {fuel : Nat} {name : Label} (hk : name.key ∉ keysOf lines) :
    outlineFrom g (fuel + 1) level lines name =
      (related g name).foldl (outlineFrom g fuel (level + 1)) (lines ++ [⟨level, name⟩]) := by
  have hany : ¬ (lines.any fun l => decide (l.name.key = name.key)) = true := by
    simpa [mem_keysOf] using hk
  rw [outlineFrom, if_neg hany]

namespace Lists

theorem append {mid : List OutlineLine} {more : List Label} (h : Lists g level lines names mid)
    (hm : Lists g level mid more after) : Lists g level lines (names ++ more) after := by
  induction h with
  | done => exact hm
  | known hk _ ih => exact .known hk (ih hm)
  | fresh hk hb _ _ ih => exact .fresh hk hb (ih hm)

theorem grows (h : Lists g level lines names after) :
    ∃ new, after = lines ++ new ∧ ∀ l ∈ new, level ≤ l.level := by
  induction h with
  | done => exact ⟨[], by simp⟩
  | known _ _ ih => exact ih
  | @fresh level lines _ _ name _ _ _ _ ihb ihr =>
      obtain ⟨below, rfl, hb⟩ := ihb
      obtain ⟨rest, rfl, hr⟩ := ihr
      refine ⟨⟨level, name⟩ :: below ++ rest, by simp, ?_⟩
      refine List.forall_mem_append.mpr ⟨List.forall_mem_cons.mpr ⟨Nat.le_refl _, ?_⟩, hr⟩
      exact fun l hl => Nat.le_of_succ_le (hb l hl)

theorem subset (h : Lists g level lines names after) : keysOf lines ⊆ keysOf after := by
  obtain ⟨new, rfl, -⟩ := h.grows
  simp

theorem foldl {f : List OutlineLine → Label → List OutlineLine}
    (h : ∀ name ∈ names, ∀ before, keysOf lines ⊆ keysOf before →
      Lists g level before [name] (f before name)) :
    Lists g level lines names (names.foldl f lines) := by
  induction names generalizing lines with
  | nil => exact .done level lines
  | cons name rest ih =>
      obtain ⟨hname, hrest⟩ := List.forall_mem_cons.mp h
      have hfirst := hname lines (List.Subset.refl _)
      refine hfirst.append (ih fun other ho before hb => ?_)
      exact hrest other ho before (List.Subset.trans hfirst.subset hb)

/-- By induction on the fuel: a name that is listed is one less to come, and
its neighbours are ends of edges again. -/
theorem outlineFrom {fuel : Nat} {name : Label} (hn : name.key ∈ g.ends)
    (hf : unseen g.ends (keysOf lines) < fuel) :
    Lists g level lines [name] (outlineFrom g fuel level lines name) := by
  induction fuel generalizing level lines name with
  | zero => omega
  | succ fuel ih =>
      by_cases hk : name.key ∈ keysOf lines
      · rw [outlineFrom_known hk]
        exact .known hk (.done _ _)
      · rw [outlineFrom_fresh hk]
        refine .fresh hk (.foldl fun other ho before hb => ih (links_of_related ho).mem_ends ?_)
          (.done _ _)
        have hnew : name.key ∈ keysOf before := hb (by simp)
        have hold : keysOf lines ⊆ keysOf before := fun k hm => hb (by simp [hm])
        have hless := unseen_lt hold hn hk hnew
        omega

theorem unique {other : List OutlineLine} (h : Lists g level lines names after)
    (h' : Lists g level lines names other) : after = other := by
  induction h generalizing other with
  | done => cases h'; rfl
  | known hk _ ih =>
      cases h' with
      | known _ hr => exact ih hr
      | fresh hk' => exact absurd hk hk'
  | fresh hk _ _ ihb ihr =>
      cases h' with
      | known hk' => exact absurd hk' hk
      | fresh _ hb hr =>
          obtain rfl := ihb hb
          exact ihr hr

theorem nodup (h : Lists g level lines names after) (hn : (keysOf lines).Nodup) :
    (keysOf after).Nodup := by
  induction h with
  | done => exact hn
  | known _ _ ih => exact ih hn
  | fresh hk _ _ ihb ihr => exact ihr (ihb (by simpa using List.Nodup.concat hk hn))

theorem mem_of_name (h : Lists g level lines names after) :
    ∀ name ∈ names, name.key ∈ keysOf after := by
  induction h with
  | done => simp
  | known hk hr ih => exact List.forall_mem_cons.mpr ⟨hr.subset hk, ih⟩
  | fresh _ hb hr _ ihr =>
      exact List.forall_mem_cons.mpr ⟨hr.subset (hb.subset (by simp)), ihr⟩

theorem mem_of_links {a b : Label.Key} (h : Lists g level lines names after)
    (ha : a ∈ keysOf after) (hab : g.Links a b) : a ∈ keysOf lines ∨ b ∈ keysOf after := by
  induction h with
  | done => exact .inl ha
  | known _ _ ih => exact ih ha
  | @fresh level lines _ _ name _ _ hb hr ihb ihr =>
      obtain hm | hm := ihr ha
      · obtain hl | hm := ihb hm
        · obtain hl | rfl := mem_keysOf_concat.mp hl
          · exact .inl hl
          · obtain ⟨other, ho, rfl⟩ := exists_related_iff.mpr hab
            exact .inr (hr.subset (hb.mem_of_name other ho))
        · exact .inr (hr.subset hm)
      · exact .inr hm

theorem connects {k : Label.Key} (h : Lists g level lines names after) (hk : k ∈ keysOf after) :
    k ∈ keysOf lines ∨ ∃ name ∈ names, g.Connects name.key k := by
  induction h with
  | done => exact .inl hk
  | known _ _ ih => exact (ih hk).imp_right fun ⟨name, hn, hc⟩ => ⟨name, .tail _ hn, hc⟩
  | @fresh level lines _ _ name rest _ _ _ ihb ihr =>
      obtain hm | ⟨other, ho, hc⟩ := ihr hk
      · obtain hl | ⟨other, ho, hc⟩ := ihb hm
        · obtain hl | rfl := mem_keysOf_concat.mp hl
          · exact .inl hl
          · exact .inr ⟨name, .head _, .refl⟩
        · exact .inr ⟨name, .head _, hc.head (links_of_related ho)⟩
      · exact .inr ⟨other, .tail _ ho, hc⟩

end Lists

def Nearest (lines : List OutlineLine) (level : Nat) (l : OutlineLine) : Prop :=
  ∃ before after, lines = before ++ l :: after ∧ l.level = level ∧ ∀ m ∈ after, m.level ≠ level

/-- Each line but the first is for a neighbour of the nearest line before it
that stands one level higher. -/
def Hangs (g : TypeGraph) (lines : List OutlineLine) : Prop :=
  ∀ before l after, lines = before ++ l :: after → before ≠ [] →
    ∃ level above, l.level = level + 1 ∧ Nearest before level above ∧
      g.Links above.name.key l.name.key

theorem Nearest.concat (lines : List OutlineLine) (l : OutlineLine) :
    Nearest (lines ++ [l]) l.level l := ⟨lines, [], rfl, rfl, by simp⟩

theorem Nearest.append {above : OutlineLine} {new : List OutlineLine}
    (h : Nearest lines level above) (hn : ∀ l ∈ new, level < l.level) :
    Nearest (lines ++ new) level above := by
  obtain ⟨before, rest, rfl, hl, hrest⟩ := h
  refine ⟨before, rest ++ new, by simp, hl, ?_⟩
  exact List.forall_mem_append.mpr ⟨hrest, fun m hm => Nat.ne_of_gt (hn m hm)⟩

theorem Hangs.concat {above : OutlineLine} {name : Label} (h : Hangs g lines)
    (hn : Nearest lines level above) (hl : g.Links above.name.key name.key) :
    Hangs g (lines ++ [⟨level + 1, name⟩]) := by
  intro before l after he hne
  obtain rfl | ⟨after, m, rfl⟩ := List.eq_nil_or_concat after
  · obtain ⟨rfl, rfl⟩ : lines = before ∧ ⟨level + 1, name⟩ = l := by simpa using he
    exact ⟨level, above, rfl, hn, hl⟩
  · refine h before l after ?_ hne
    rw [List.concat_eq_append, ← List.cons_append, ← List.append_assoc] at he
    exact List.append_inj_left' he rfl

theorem Lists.hangs {above : OutlineLine} (h : Lists g (level + 1) lines names after)
    (hg : Hangs g lines) (hn : Nearest lines level above)
    (hl : ∀ name ∈ names, g.Links above.name.key name.key) : Hangs g after := by
  generalize hlevel : level + 1 = deeper at h
  induction h generalizing level above with
  | done => exact hg
  | known _ _ ih => exact ih hg hn (List.forall_mem_cons.mp hl).2 hlevel
  | @fresh _ lines _ _ name _ _ hb _ ihb ihr =>
      subst hlevel
      obtain ⟨hname, hrest⟩ := List.forall_mem_cons.mp hl
      have hmid := ihb (hg.concat hn hname) (.concat lines _) (fun _ ho => links_of_related ho) rfl
      obtain ⟨new, rfl, hnew⟩ := hb.grows
      refine ihr hmid ?_ hrest rfl
      -- what was listed meanwhile stands deeper, so the line above is the nearest still
      rw [List.append_assoc]
      refine hn.append (List.forall_mem_append.mpr ⟨by simp, fun l hm => ?_⟩)
      have := hnew l hm
      omega

/-- An outline of what the root is connected to. -/
structure Outlines (g : TypeGraph) (lines : List OutlineLine) : Prop where
  root : lines.head? = some ⟨0, g.root⟩
  once : (keysOf lines).Nodup
  connected : ∀ k, k ∈ keysOf lines ↔ g.Connects g.root.key k
  hangs : Hangs g lines

theorem outlineFrom_lists (g : TypeGraph) (more : Nat) :
    Lists g 0 [] [g.root] (outlineFrom g (2 * g.edges.length + 2 + more) 0 [] g.root) := by
  refine .outlineFrom List.mem_cons_self ?_
  have := unseen_le_length g.ends (keysOf [])
  rw [g.length_ends] at this
  omega

theorem Lists.below_root (h : Lists g 0 [] [g.root] lines) :
    Lists g 1 [⟨0, g.root⟩] (related g g.root) lines := by
  cases h with
  | known hk => simp at hk
  | fresh _ hb hr =>
      cases hr with
      | done => exact hb

theorem hangs_singleton (l : OutlineLine) : Hangs g [l] := by
  intro before m after he hne
  obtain ⟨rfl, -⟩ := (List.append_eq_singleton_iff.mp he.symm).resolve_right (by simp)
  exact absurd rfl hne

theorem Lists.outlines (h : Lists g 0 [] [g.root] lines) : Outlines g lines where
  root := by
    obtain ⟨new, rfl, -⟩ := h.below_root.grows
    rfl
  once := h.nodup List.nodup_nil
  connected k := by
    constructor
    · intro hk
      obtain hnil | ⟨name, hn, hc⟩ := h.connects hk
      · simp at hnil
      · rwa [List.mem_singleton.mp hn] at hc
    · intro hc
      induction hc with
      | refl => exact h.mem_of_name g.root List.mem_cons_self
      | tail _ step ih => exact (h.mem_of_links ih step).resolve_left (by simp)
  hangs := h.below_root.hangs (hangs_singleton _) (.concat [] _) fun _ ho => links_of_related ho

theorem outlineLine_newline {indent : String} {l : OutlineLine} (hi : '\n' ∉ indent.toList)
    (hl : '\n' ∉ l.name.display.toList) : '\n' ∉ (outlineLine indent l).toList := by
  have hindent : '\n' ∉ (List.replicate l.level indent).flatMap String.toList := by
    simp [List.mem_flatMap, hi]
  simp [outlineLine, hindent, hl]

theorem outline_split (g : TypeGraph) {indent : String} (hi : '\n' ∉ indent.toList)
    (hl : ∀ l ∈ outlineLines g, '\n' ∉ l.name.display.toList) (hne : outlineLines g ≠ []) :
    ((outline g indent).split '\n').toList.map (·.copy) =
      (outlineLines g).map (outlineLine indent) := by
  have h := String.toList_split_intercalate (c := '\n')
    (l := (outlineLines g).map (outlineLine indent))
    (List.forall_mem_map.mpr fun l hm => outlineLine_newline hi (hl l hm))
  rwa [if_neg (by simpa using hne)] at h

end Diagram

namespace Hierarchy

variable {identity : Identity} {mode : Mode} {root : TypeNode} {queries : List Query}
  {g : TypeGraph}

/-- All that was discovered is connected to the root: an edge that was turned
away has its key or the reverse one in the graph already. -/
theorem IsClosure.mem_keys_iff_connects (hc : IsClosure identity mode root queries g)
    (k : Label.Key) : k ∈ g.keys ↔ g.Connects g.root.key k := by
  constructor
  · intro hk
    obtain ⟨entry, hn, rfl⟩ := TypeGraph.mem_keys.mp hk
    refine hc.discovery (P := fun entry => g.Connects g.root.key entry.1.key) .refl ?_ entry hn
    intro origin ho hreach q hq hqn entry hn hf
    exact hreach.tail (hc.links_found hq (hqn ▸ ho) hf (hc.labelled _ hn)).2
  · intro hreach
    induction hreach with
    | refl => exact TypeGraph.mem_keys.mpr ⟨_, hc.root_mem, rfl⟩
    | tail _ step _ =>
        obtain h | h := step <;> obtain ⟨e, he, hk⟩ := List.mem_map.mp h <;>
          obtain ⟨rfl, rfl⟩ := Prod.mk.inj hk
        · exact (hc.justified e he).ends.2
        · exact (hc.justified e he).ends.1

end Hierarchy

namespace Diagram

open Client Hierarchy

/-- Of any graph the outline lists what the root is connected to, and a search
with more fuel, or with no bound at all, comes to the same lines. Of a graph
that was built these are its labels. -/
theorem outline_covers :
    (∀ g : TypeGraph,
      Outlines g (outlineLines g) ∧ Lists g 0 [] [g.root] (outlineLines g) ∧
      (∀ more, outlineFrom g (2 * g.edges.length + 2 + more) 0 [] g.root = outlineLines g) ∧
      ∀ indent, '\n' ∉ indent.toList → (∀ l ∈ outlineLines g, '\n' ∉ l.name.display.toList) →
        ((outline g indent).split '\n').toList.map (·.copy) =
          (outlineLines g).map (outlineLine indent)) ∧
    ∀ {σ : Type} (w : World σ) (identity : Identity) (bound : Nat) (node : TypeNode) (mode : Mode)
      (focus : Option Label) (s u : Session σ) (g : TypeGraph),
      outcome (build w identity bound node mode focus) s = (.ok g, u) →
        (keysOf (outlineLines g)).Perm g.keys := by
  have hlists (g : TypeGraph) : Lists g 0 [] [g.root] (outlineLines g) := outlineFrom_lists g 0
  refine ⟨fun g => ⟨(hlists g).outlines, hlists g, fun more => ?_, fun indent hi hl => ?_⟩, ?_⟩
  · exact (outlineFrom_lists g more).unique (hlists g)
  · refine outline_split g hi hl fun hnil => ?_
    simpa [hnil] using (hlists g).outlines.root
  · intro σ w identity bound node mode focus s u g h
    obtain ⟨_, queries, _, grown, hlabel, -, hgrown, he, -⟩ := build_ok h
    have hc : IsClosure identity mode (rootFor mode node) queries g := he ▸ hgrown.isClosure hlabel
    refine (List.perm_ext_iff_of_nodup (hlists g).outlines.once hc.distinct).mpr fun k => ?_
    rw [(hlists g).outlines.connected, hc.mem_keys_iff_connects]

theorem outline_covers_pair : ∃ g u,
    outcome (build (answering pair) Identity.byName 3 (TypeNode.named "A") .both none)
      (.start ()) = (.ok g, u) ∧
    g.edges = [⟨.text "A", .text "A"⟩, ⟨.text "B", .text "A"⟩, ⟨.text "B", .text "B"⟩] ∧
    outlineLines g = [⟨0, .text "A"⟩, ⟨1, .text "B"⟩] ∧
    (keysOf (outlineLines g)).Perm g.keys ∧
    ((outline g "  ").split '\n').toList.map (·.copy) = ["- A", "  - B"] := by
  obtain ⟨g, u, h, hedges, hlines⟩ : ∃ g u,
      outcome (build (answering pair) Identity.byName 3 (TypeNode.named "A") .both none)
        (.start ()) = (.ok g, u) ∧
      g.edges = [⟨.text "A", .text "A"⟩, ⟨.text "B", .text "A"⟩, ⟨.text "B", .text "B"⟩] ∧
      outlineLines g = [⟨0, .text "A"⟩, ⟨1, .text "B"⟩] := ⟨_, _, rfl, rfl, rfl⟩
  refine ⟨g, u, h, hedges, hlines, outline_covers.2 _ _ _ _ _ _ _ u g h, ?_⟩
  obtain ⟨-, -, -, htext⟩ := outline_covers.1 g
  rw [htext "  " (by decide) (by rw [hlines]; decide), hlines]
  decide

end Diagram

end CodeAtlas
