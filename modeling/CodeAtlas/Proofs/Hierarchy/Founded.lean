import CodeAtlas.Proofs.Hierarchy.Growth

namespace CodeAtlas

def TypeEdge.touches (e : TypeEdge) (k : Label.Key) : Bool := e.parent.key = k || e.child.key = k

namespace Hierarchy

variable {identity : Identity} {mode : Mode} {asked more : List Query} {g h : TypeGraph}

/-- The entry after the first `i + 1` was met in the answer to a query for one
of these. Of all edges at its label, that of this meeting is the first. -/
def Discovered (asked : List Query) (g : TypeGraph) (i : Nat) (entry : Label × TypeNode) : Prop :=
  ∃ j ≤ i, ∃ origin, g.nodes[j]? = some origin ∧ ∃ q ∈ asked, q.node = origin.2 ∧
    entry.2 ∈ q.found ∧
    g.edges.find? (fun e => e.touches entry.1.key) = some (q.side.edge origin.1 entry.1)

/-- An edge was reported between a node of the arena and a known label. -/
def Justified (identity : Identity) (asked : List Query) (g : TypeGraph) (e : TypeEdge) : Prop :=
  ∃ q ∈ asked, ∃ label node other, (label, q.node) ∈ g.nodes ∧ node ∈ q.found ∧
    identity node = .ok other ∧ other.key ∈ g.keys ∧ e = q.side.edge label other

structure Founded (identity : Identity) (asked : List Query) (g : TypeGraph) : Prop where
  distinct : g.keys.Nodup
  labelled : ∀ entry ∈ g.nodes, identity entry.2 = .ok entry.1
  discovered : ∀ i entry, g.nodes[i + 1]? = some entry → Discovered asked g i entry
  justified : ∀ e ∈ g.edges, Justified identity asked g e

theorem Discovered.mono {i : Nat} {entry : Label × TypeNode} (hd : Discovered asked g i entry)
    (hq : asked ⊆ more) (he : h.Extends g) : Discovered more h i entry := by
  obtain ⟨j, hj, origin, ho, q, hm, hn, hf, hedge⟩ := hd
  obtain ⟨nodes, hnodes⟩ := he.nodes
  obtain ⟨edges, hedges⟩ := he.edges
  refine ⟨j, hj, origin, ?_, q, hq hm, hn, hf, ?_⟩
  · rw [← hnodes]
    exact List.getElem?_append_left (List.getElem?_eq_some_iff.mp ho).1 ▸ ho
  · rw [← hedges, List.find?_append, hedge]
    rfl

theorem Justified.mono {e : TypeEdge} (hj : Justified identity asked g e) (hq : asked ⊆ more)
    (he : h.Extends g) : Justified identity more h e := by
  obtain ⟨q, hm, label, node, other, hn, hf, hl, hk, rfl⟩ := hj
  exact ⟨q, hq hm, label, node, other, he.nodes.subset hn, hf, hl, he.keys hk, rfl⟩

theorem Founded.mono (hg : Founded identity asked g) (hq : asked ⊆ more) :
    Founded identity more g :=
  ⟨hg.distinct, hg.labelled, fun i entry h => (hg.discovered i entry h).mono hq (.refl g),
    fun e h => (hg.justified e h).mono hq (.refl g)⟩

theorem Justified.ends {e : TypeEdge} (hj : Justified identity asked g e) :
    e.parent.key ∈ g.keys ∧ e.child.key ∈ g.keys := by
  obtain ⟨q, -, label, node, other, hn, -, -, hk, rfl⟩ := hj
  have hl : label.key ∈ g.keys := TypeGraph.mem_keys.mpr ⟨_, hn, rfl⟩
  cases hs : q.side
  · exact ⟨hk, hl⟩
  · exact ⟨hl, hk⟩

theorem Founded.not_touches (hg : Founded identity asked g) {k : Label.Key} (hk : k ∉ g.keys) :
    ∀ e ∈ g.edges, ¬ e.touches k := by
  intro e he ht
  obtain ⟨hp, hc⟩ := (hg.justified e he).ends
  simp only [TypeEdge.touches, Bool.or_eq_true, decide_eq_true_eq] at ht
  obtain rfl | rfl := ht
  · exact hk hp
  · exact hk hc

theorem touches_edge (side : Side) (label other : Label) :
    (side.edge label other).touches other.key = true := by
  cases side <;> simp [Side.edge, TypeEdge.touches]

theorem Founded.admits (hg : Founded identity asked g) {e : TypeEdge} {k : Label.Key}
    (hk : k ∉ g.keys) (ht : e.touches k = true) : g.admits e = true := by
  rw [TypeGraph.admits_iff]
  rintro (hj | hj) <;> obtain ⟨f, hf, he⟩ := List.mem_map.mp hj <;>
    apply hg.not_touches hk f hf <;>
    simp_all [TypeEdge.key, TypeEdge.reverse, TypeEdge.touches, or_comm]

theorem Founded.meet_known (hg : Founded identity asked g) {q : Query} (hq : q ∈ asked)
    {label other : Label} {node : TypeNode} (ho : (label, q.node) ∈ g.nodes)
    (hf : node ∈ q.found) (hl : identity node = .ok other) (hk : other.key ∈ g.keys) :
    Founded identity asked (g.addEdge (q.side.edge label other)) := by
  have hx := TypeGraph.extends_addEdge g (q.side.edge label other)
  refine ⟨by simpa using hg.distinct, by simpa using hg.labelled, ?_, ?_⟩
  · intro i entry he
    exact (hg.discovered i entry (by simpa using he)).mono (List.Subset.refl _) hx
  · intro e he
    rw [TypeGraph.edges_addEdge] at he
    obtain he | he := List.mem_append.mp he
    · exact (hg.justified e he).mono (List.Subset.refl _) hx
    · have he : e = q.side.edge label other := by
        split at he
        · simpa using he
        · simp at he
      exact ⟨q, hq, label, node, other, by simpa using ho, hf, hl, by simpa using hk, he⟩

theorem Founded.edges_meet (hg : Founded identity asked g) {other : Label}
    (hk : other.key ∉ g.keys) (node : TypeNode) (side : Side) (label : Label) :
    ((g.addNode other node).addEdge (side.edge label other)).edges =
      g.edges ++ [side.edge label other] := by
  have ha : (g.addNode other node).admits (side.edge label other) = true := by
    simpa [TypeGraph.admits] using hg.admits hk (touches_edge side label other)
  simp [TypeGraph.edges_addEdge, ha]

theorem Founded.discovered_meet (hg : Founded identity asked g) {q : Query} (hq : q ∈ asked)
    {label other : Label} {node : TypeNode} (ho : (label, q.node) ∈ g.nodes)
    (hf : node ∈ q.found) (hk : other.key ∉ g.keys) {i : Nat} (hi : i + 1 = g.nodes.length) :
    Discovered asked ((g.addNode other node).addEdge (q.side.edge label other)) i (other, node) := by
  obtain ⟨j, hj, horigin⟩ := List.getElem_of_mem ho
  refine ⟨j, by omega, (label, q.node), ?_, q, hq, rfl, hf, ?_⟩
  · rw [TypeGraph.nodes_addEdge, TypeGraph.addNode_fresh hk, List.getElem?_append_left hj,
      List.getElem?_eq_getElem hj, horigin]
  · have hnone : g.edges.find? (fun e => e.touches other.key) = none :=
      List.find?_eq_none.mpr (hg.not_touches hk)
    rw [hg.edges_meet hk, List.find?_append, hnone]
    simp [touches_edge]

theorem Founded.meet_fresh (hg : Founded identity asked g) {q : Query} (hq : q ∈ asked)
    {label other : Label} {node : TypeNode} (ho : (label, q.node) ∈ g.nodes)
    (hf : node ∈ q.found) (hl : identity node = .ok other) (hk : other.key ∉ g.keys) :
    Founded identity asked ((g.addNode other node).addEdge (q.side.edge label other)) := by
  have hx : ((g.addNode other node).addEdge (q.side.edge label other)).Extends g :=
    (TypeGraph.extends_addEdge _ _).trans (TypeGraph.extends_addNode g other node)
  have hnodes : ((g.addNode other node).addEdge (q.side.edge label other)).nodes =
      g.nodes ++ [(other, node)] := by simp [TypeGraph.addNode_fresh hk]
  refine ⟨?_, ?_, ?_, ?_⟩
  · rw [TypeGraph.keys_addEdge, TypeGraph.keys_addNode_fresh hk]
    refine List.nodup_append.mpr ⟨hg.distinct, by simp, ?_⟩
    rintro k hm k' hm' rfl
    exact hk (List.mem_singleton.mp hm' ▸ hm)
  · intro entry he
    rw [hnodes] at he
    obtain he | he := List.mem_append.mp he
    · exact hg.labelled entry he
    · obtain rfl : entry = (other, node) := by simpa using he
      exact hl
  · intro i entry he
    rw [hnodes, List.getElem?_append] at he
    split at he
    next => exact (hg.discovered i entry he).mono (List.Subset.refl _) hx
    next hi =>
      obtain ⟨hlt, he⟩ := List.getElem?_eq_some_iff.mp he
      simp only [List.length_singleton] at hlt
      obtain rfl : (other, node) = entry := by simpa using he
      exact hg.discovered_meet hq ho hf hk (by omega)
  · intro e he
    rw [hg.edges_meet hk] at he
    obtain he | he := List.mem_append.mp he
    · exact (hg.justified e he).mono (List.Subset.refl _) hx
    · refine ⟨q, hq, label, node, other, hx.nodes.subset ho, hf, hl, ?_, by simpa using he⟩
      simpa using TypeGraph.key_mem_addNode g other node

end Hierarchy

end CodeAtlas
