import CodeAtlas.Proofs.Listing.Firsts
import CodeAtlas.Proofs.TypeGraph.Arena
import Mathlib.Data.Sym.Sym2

namespace CodeAtlas

namespace TypeEdge

def pair (e : TypeEdge) : Sym2 Label.Key := s(e.parent.key, e.child.key)

variable {e f : TypeEdge}

theorem pair_eq_iff : e.pair = f.pair ↔ e.key = f.key ∨ e.key = f.reverse.key := by
  simp [pair, key, reverse]

end TypeEdge

namespace TypeGraph

inductive Entry
  | node (label : Label) (node : TypeNode)
  | edge (e : TypeEdge)

namespace Entry

def node? : Entry → Option (Label × TypeNode)
  | .node label entry => some (label, entry)
  | .edge _ => none

def edge? : Entry → Option TypeEdge
  | .node _ _ => none
  | .edge e => some e

end Entry

/-- A graph and the answers that were given so far, one for each edge. -/
structure Record where
  graph : TypeGraph
  answers : List Bool

namespace Record

def enter (r : Record) : Entry → Record
  | .node label node => { r with graph := r.graph.addNode label node }
  | .edge e => ⟨r.graph.addEdge e, r.answers ++ [r.graph.admits e]⟩

def ofEntries (root focus : Label) (entries : List Entry) : Record :=
  entries.foldl enter ⟨empty root focus, []⟩

end Record

/-- No two labels are joined twice, and the two sides of a label are the
same edges seen from their ends. -/
structure Simple (g : TypeGraph) : Prop where
  edges : g.edges.Pairwise fun e f => f.key ≠ e.key ∧ f.key ≠ e.reverse.key
  supertypes : ∀ l, ((g.supertypesOf l).map Label.key).Nodup
  subtypes : ∀ l, ((g.subtypesOf l).map Label.key).Nodup
  mirrored : ∀ p c : Label, p.key ∈ (g.supertypesOf c).map Label.key ↔
    c.key ∈ (g.subtypesOf p).map Label.key
  oneSided : ∀ k l : Label, l.key ∈ (g.supertypesOf k).map Label.key →
    l.key ∈ (g.subtypesOf k).map Label.key → l.key = k.key

variable {g : TypeGraph} {e : TypeEdge} {l k : Label}

theorem mem_supertypesOf : l.key ∈ (g.supertypesOf k).map Label.key ↔
    ∃ e ∈ g.edges, e.child.key = k.key ∧ e.parent.key = l.key := by
  simp [supertypesOf, and_assoc]

theorem mem_subtypesOf : l.key ∈ (g.subtypesOf k).map Label.key ↔
    ∃ e ∈ g.edges, e.parent.key = k.key ∧ e.child.key = l.key := by
  simp [subtypesOf, and_assoc]

theorem mem_pairs : e.pair ∈ g.edges.map TypeEdge.pair ↔ g.Joins e := by
  simp only [List.mem_map, TypeEdge.pair_eq_iff, Joins, edgeKeys]
  constructor
  · rintro ⟨f, hf, he | he⟩
    · exact .inl ⟨f, hf, he⟩
    · exact .inr ⟨f, hf, he⟩
  · rintro (⟨f, hf, he⟩ | ⟨f, hf, he⟩)
    · exact ⟨f, hf, .inl he⟩
    · exact ⟨f, hf, .inr he⟩

theorem nodup_side {here : TypeEdge → Bool} {side : TypeEdge → Label}
    (h : (g.edges.map TypeEdge.pair).Nodup)
    (hside : ∀ e f, here e = true → here f = true → (side e).key = (side f).key →
      e.pair = f.pair) :
    (((g.edges.filter here).map side).map Label.key).Nodup := by
  rw [List.map_map]
  refine List.Nodup.map_on (fun e he f hf hk => ?_) ((h.of_map _).filter _)
  obtain ⟨he, hhe⟩ := List.mem_filter.mp he
  obtain ⟨hf, hhf⟩ := List.mem_filter.mp hf
  exact List.inj_on_of_nodup_map h he hf (hside e f hhe hhf hk)

theorem simple_of_nodup (h : (g.edges.map TypeEdge.pair).Nodup) : g.Simple where
  edges := by
    refine (List.pairwise_map.mp h).imp fun {e f} hne => ?_
    have hne' : ¬ f.pair = e.pair := fun he => hne he.symm
    rwa [TypeEdge.pair_eq_iff, not_or] at hne'
  supertypes l := by
    refine nodup_side h fun e f he hf hk => ?_
    simp_all [TypeEdge.pair]
  subtypes l := by
    refine nodup_side h fun e f he hf hk => ?_
    simp_all [TypeEdge.pair]
  mirrored p c := by simp only [mem_supertypesOf, mem_subtypesOf, and_comm]
  oneSided k l hsup hsub := by
    obtain ⟨e, he, hchild, hparent⟩ := mem_supertypesOf.mp hsup
    obtain ⟨f, hf, hparent', hchild'⟩ := mem_subtypesOf.mp hsub
    have hpair : e.pair = f.pair := by
      rw [TypeEdge.pair, TypeEdge.pair, hparent, hchild, hparent', hchild', Sym2.eq_swap]
    obtain rfl : e = f := List.inj_on_of_nodup_map h he hf hpair
    exact hparent.symm.trans hparent'

theorem admits_eq (g : TypeGraph) (e : TypeEdge) :
    g.admits e = !(g.edges.any fun f => f.pair == e.pair) := by
  rw [Bool.eq_iff_iff, admits_iff, ← mem_pairs]
  simp

theorem edges_keepFirst (g : TypeGraph) (e : TypeEdge) :
    (g.addEdge e).edges = keepFirst TypeEdge.pair g.edges e := by
  rw [edges_addEdge, admits_eq, keepFirst]
  cases g.edges.any fun f => f.pair == e.pair <;> simp

def nodeKey (entry : Label × TypeNode) : Label.Key := entry.1.key

theorem nodes_keepFirst (g : TypeGraph) (label : Label) (node : TypeNode) :
    (g.addNode label node).nodes = keepFirst nodeKey g.nodes (label, node) := by
  have hany : (g.nodes.any fun n => nodeKey n == nodeKey (label, node)) = true ↔
      label.key ∈ g.keys := by simp [mem_keys, nodeKey]
  rw [keepFirst]
  by_cases hk : label.key ∈ g.keys
  · rw [addNode_known hk, if_pos (hany.mpr hk)]
  · rw [addNode_fresh hk, if_neg (hk ∘ hany.mp)]

namespace Record

/-- After these entries the record holds the first of each key, and has said so. -/
structure Holds (entries : List Entry) (r : Record) : Prop where
  nodes : r.graph.nodes = (entries.filterMap Entry.node?).foldl (keepFirst nodeKey) []
  edges : r.graph.edges = (entries.filterMap Entry.edge?).foldl (keepFirst TypeEdge.pair) []
  answers : r.answers = isFirst TypeEdge.pair (entries.filterMap Entry.edge?)

variable {entries : List Entry} {r : Record}

theorem Holds.enter (h : Holds entries r) (entry : Entry) :
    Holds (entries ++ [entry]) (r.enter entry) := by
  cases entry with
  | node label node =>
      refine ⟨?_, ?_, ?_⟩
      · rw [Record.enter, nodes_keepFirst, h.nodes]
        simp [Entry.node?]
      · simpa [Record.enter, Entry.edge?, List.filterMap_cons] using h.edges
      · simpa [Record.enter, Entry.edge?, List.filterMap_cons] using h.answers
  | edge e =>
      -- A pair that was given before is still held by some edge, so asking the graph is enough.
      have hany := (Firsts.of_foldl TypeEdge.pair (entries.filterMap Entry.edge?)).any_key e
      refine ⟨?_, ?_, ?_⟩
      · simpa [Record.enter, Entry.node?, List.filterMap_cons] using h.nodes
      · rw [Record.enter, edges_keepFirst, h.edges]
        simp [Entry.edge?]
      · rw [Record.enter, h.answers, admits_eq, h.edges, hany, ← isFirst_concat]
        simp [Entry.edge?]

theorem holds_ofEntries (root focus : Label) (entries : List Entry) :
    Holds entries (ofEntries root focus entries) := by
  induction entries using List.reverseRecOn with
  | nil => exact ⟨rfl, rfl, rfl⟩
  | append_singleton past entry ih =>
      rw [ofEntries, List.foldl_concat]
      exact ih.enter entry

end Record

/-- Whatever is entered in whatever order: an edge is taken exactly if it is the
first to join its two labels, either way round, and the edges taken stand in the
order in which they came; so do the labels, each with its first node. -/
theorem ofEntries_firsts (root focus : Label) (entries : List Entry) :
    let r := Record.ofEntries root focus entries
    let given := entries.filterMap Entry.edge?
    r.answers = isFirst TypeEdge.pair given ∧
      r.graph.edges = ((given.zip r.answers).filter Prod.snd).map Prod.fst ∧
      Firsts nodeKey (entries.filterMap Entry.node?) r.graph.nodes ∧
      r.graph.Simple := by
  intro r given
  obtain ⟨hnodes, hedges, hanswers⟩ := Record.holds_ofEntries root focus entries
  have hfirsts : Firsts TypeEdge.pair given r.graph.edges := by
    rw [hedges]
    exact .of_foldl _ _
  refine ⟨hanswers, ?_, ?_, simple_of_nodup hfirsts.met.nodup⟩
  · rw [hanswers, ← foldl_keepFirst, hedges]
  · rw [hnodes]
    exact .of_foldl _ _

example : (Record.ofEntries (.text "a") (.text "a") [.edge ⟨.text "a", .text "b"⟩,
    .edge ⟨.text "b", .text "a"⟩, .edge ⟨.text "c", .text "c"⟩,
    .edge ⟨.text "c", .text "c"⟩]).answers = [true, false, true, false] := by decide

end TypeGraph

end CodeAtlas
