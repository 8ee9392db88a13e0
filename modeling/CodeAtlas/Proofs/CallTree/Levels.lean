import CodeAtlas.CallTree

namespace CodeAtlas.CallTree

mutual

def nodes (level : Nat) : CallTree → List (Nat × CallTree)
  | .node name children => (level, .node name children) :: nodesBelow (level + 1) children

def nodesBelow (level : Nat) : List CallTree → List (Nat × CallTree)
  | [] => []
  | t :: rest => t.nodes level ++ nodesBelow level rest

end

mutual

theorem names_nodes (level : Nat) : ∀ t : CallTree, ((t.nodes level).map fun n => n.2.name) = t.names
  | .node name children => by
      rw [nodes, names, List.map_cons, names_nodesBelow]
      rfl

theorem names_nodesBelow (level : Nat) : ∀ ts : List CallTree,
    ((nodesBelow level ts).map fun n => n.2.name) = namesBelow ts
  | [] => rfl
  | t :: rest => by
      rw [nodesBelow, namesBelow, List.map_append, names_nodes level t, names_nodesBelow level rest]

end

mutual

theorem level_le_of_mem_nodes {level : Nat} {n : Nat × CallTree} :
    ∀ {t : CallTree}, n ∈ t.nodes level → n.1 ≤ level + t.depth
  | .node name children, h => by
      rw [nodes] at h
      rw [depth]
      obtain rfl | h := List.mem_cons.mp h
      · exact Nat.le_add_right _ _
      · have hbelow := level_le_of_mem_nodesBelow h
        omega

theorem level_le_of_mem_nodesBelow {level : Nat} {n : Nat × CallTree} :
    ∀ {ts : List CallTree}, n ∈ nodesBelow level ts → n.1 + 1 ≤ level + depthBelow ts
  | [], h => by simp [nodesBelow] at h
  | t :: rest, h => by
      rw [nodesBelow] at h
      rw [depthBelow]
      obtain h | h := List.mem_append.mp h
      · have ht := level_le_of_mem_nodes h
        omega
      · have hrest := level_le_of_mem_nodesBelow h
        omega

end

theorem nodesBelow_append (level : Nat) (xs ys : List CallTree) :
    nodesBelow level (xs ++ ys) = nodesBelow level xs ++ nodesBelow level ys := by
  induction xs with
  | nil => rfl
  | cons t rest ih => simp [nodesBelow, ih]

theorem nodesBelow_singleton (level : Nat) (t : CallTree) : nodesBelow level [t] = t.nodes level := by
  simp [nodesBelow]

theorem depthBelow_le {ts : List CallTree} {n : Nat} (h : ∀ t ∈ ts, t.depth ≤ n) :
    depthBelow ts ≤ n + 1 := by
  induction ts with
  | nil => exact Nat.zero_le _
  | cons t rest ih =>
      obtain ⟨ht, hrest⟩ := List.forall_mem_cons.mp h
      have hmax : depthBelow rest ≤ n + 1 := ih hrest
      rw [depthBelow]
      omega

end CodeAtlas.CallTree
