import CodeAtlas.TypeGraph

namespace CodeAtlas.TypeGraph

def Joins (g : TypeGraph) (e : TypeEdge) : Prop :=
  e.key ∈ g.edgeKeys ∨ e.reverse.key ∈ g.edgeKeys

@[simp]
theorem edges_addNode (g : TypeGraph) (label : Label) (node : TypeNode) :
    (g.addNode label node).edges = g.edges := by
  unfold addNode
  split <;> rfl

@[simp]
theorem nodes_addEdge (g : TypeGraph) (e : TypeEdge) : (g.addEdge e).nodes = g.nodes := by
  unfold addEdge
  split <;> rfl

@[simp]
theorem keys_addEdge (g : TypeGraph) (e : TypeEdge) : (g.addEdge e).keys = g.keys := by
  simp [keys, labels]

@[simp]
theorem edgeKeys_addNode (g : TypeGraph) (label : Label) (node : TypeNode) :
    (g.addNode label node).edgeKeys = g.edgeKeys := by
  simp [edgeKeys]

theorem mem_keys {g : TypeGraph} {k : Label.Key} :
    k ∈ g.keys ↔ ∃ entry ∈ g.nodes, entry.1.key = k := by
  simp [keys, labels]

theorem addNode_known {g : TypeGraph} {label : Label} (h : label.key ∈ g.keys) (node : TypeNode) :
    g.addNode label node = g := if_pos h

theorem addNode_fresh {g : TypeGraph} {label : Label} (h : label.key ∉ g.keys) (node : TypeNode) :
    g.addNode label node = { g with nodes := g.nodes ++ [(label, node)] } := if_neg h

theorem keys_addNode_fresh {g : TypeGraph} {label : Label} (h : label.key ∉ g.keys)
    (node : TypeNode) : (g.addNode label node).keys = g.keys ++ [label.key] := by
  simp [addNode_fresh h, keys, labels]

theorem key_mem_addNode (g : TypeGraph) (label : Label) (node : TypeNode) :
    label.key ∈ (g.addNode label node).keys := by
  by_cases h : label.key ∈ g.keys
  · rwa [addNode_known h]
  · simp [keys_addNode_fresh h]

theorem edges_addEdge (g : TypeGraph) (e : TypeEdge) :
    (g.addEdge e).edges = g.edges ++ if g.admits e then [e] else [] := by
  unfold addEdge
  split <;> simp

theorem admits_iff (g : TypeGraph) (e : TypeEdge) : g.admits e ↔ ¬ g.Joins e := by
  simp [admits, Joins]

theorem joins_addEdge (g : TypeGraph) (e : TypeEdge) : (g.addEdge e).Joins e := by
  by_cases h : g.admits e
  · exact .inl (by simp [edgeKeys, edges_addEdge, h])
  · have hj : g.Joins e := by simpa [admits_iff] using h
    simpa [addEdge, h] using hj

structure Extends (h g : TypeGraph) : Prop where
  root : h.root = g.root
  focus : h.focus = g.focus
  nodes : g.nodes <+: h.nodes
  edges : g.edges <+: h.edges

theorem Extends.refl (g : TypeGraph) : g.Extends g := ⟨rfl, rfl, List.prefix_rfl, List.prefix_rfl⟩

theorem Extends.trans {g h k : TypeGraph} (hk : k.Extends h) (hg : h.Extends g) : k.Extends g :=
  ⟨hk.root.trans hg.root, hk.focus.trans hg.focus, hg.nodes.trans hk.nodes, hg.edges.trans hk.edges⟩

theorem extends_addNode (g : TypeGraph) (label : Label) (node : TypeNode) :
    (g.addNode label node).Extends g := by
  by_cases h : label.key ∈ g.keys
  · rw [addNode_known h]
    exact .refl g
  · rw [addNode_fresh h]
    exact ⟨rfl, rfl, List.prefix_append _ _, List.prefix_rfl⟩

theorem extends_addEdge (g : TypeGraph) (e : TypeEdge) : (g.addEdge e).Extends g := by
  unfold addEdge
  split
  · exact ⟨rfl, rfl, List.prefix_rfl, List.prefix_append _ _⟩
  · exact .refl g

theorem Extends.keys {g h : TypeGraph} (e : h.Extends g) : g.keys ⊆ h.keys := by
  intro k hk
  obtain ⟨entry, hm, rfl⟩ := mem_keys.mp hk
  exact mem_keys.mpr ⟨entry, e.nodes.subset hm, rfl⟩

theorem Extends.joins {g h : TypeGraph} (e : h.Extends g) {edge : TypeEdge} (hj : g.Joins edge) :
    h.Joins edge := by
  have hs : g.edgeKeys ⊆ h.edgeKeys := List.map_subset _ e.edges.subset
  exact hj.imp (fun h => hs h) (fun h => hs h)

end CodeAtlas.TypeGraph
