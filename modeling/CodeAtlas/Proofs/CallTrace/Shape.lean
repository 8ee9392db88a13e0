import CodeAtlas.Proofs.CallTrace.Script
import CodeAtlas.Proofs.CallTree.Levels

namespace CodeAtlas.CallTrace

open Client

/-- Nodes that a trace appends in preorder while its visited names grow. -/
structure Shaped (limit : Nat) (visited seen : List Name) (nodes : List (Nat × CallTree)) :
    Prop where
  kept : visited ⊆ seen
  found : ∀ name ∈ seen, name ∉ visited → name ∈ nodes.map fun n => n.2.name
  marked : ∀ n ∈ nodes, n.1 < limit → n.2.name ∈ seen
  expanded : ∀ n ∈ nodes, n.2.isLeaf = false →
    n.1 < limit ∧ n.2.name ∈ seen ∧ n.2.name ∉ visited
  once : nodes.Pairwise fun m n => n.2.isLeaf = false → m.2.name = n.2.name → limit ≤ m.1

variable {limit level : Nat} {visited mid seen : List Name} {xs ys : List (Nat × CallTree)}
  {name : Name}

theorem shaped_nil (limit : Nat) (visited : List Name) : Shaped limit visited visited [] where
  kept := List.Subset.refl _
  found _ hs hv := absurd hs hv
  marked := by simp
  expanded := by simp
  once := .nil

theorem shaped_leaf (h : level < limit → name ∈ visited) :
    Shaped limit visited visited [(level, .leaf name)] where
  kept := List.Subset.refl _
  found _ hs hv := absurd hs hv
  marked n hn hl := by
    obtain rfl := List.mem_singleton.mp hn
    exact h hl
  expanded n hn hleaf := by
    obtain rfl := List.mem_singleton.mp hn
    cases hleaf
  once := List.pairwise_singleton _ _

theorem shaped_node {children : List CallTree} (hl : level < limit) (hv : name ∉ visited)
    (h : Shaped limit (visited ++ [name]) seen xs) :
    Shaped limit visited seen ((level, .node name children) :: xs) := by
  have hname : name ∈ seen := h.kept (by simp)
  have hfresh (n : Nat × CallTree) (hn : n ∈ xs) (hleaf : n.2.isLeaf = false) :
      n.1 < limit ∧ n.2.name ∈ seen ∧ n.2.name ∉ visited ∧ name ≠ n.2.name := by
    obtain ⟨hlimit, hseen, hnew⟩ := h.expanded n hn hleaf
    rw [List.mem_append, List.mem_singleton, not_or] at hnew
    exact ⟨hlimit, hseen, hnew.1, fun he => hnew.2 he.symm⟩
  refine ⟨fun x hx => h.kept (by simp [hx]), fun x hx hxv => ?_, ?_, ?_, ?_⟩
  · by_cases he : x = name
    · simp [he, CallTree.name]
    · have hx' := h.found x hx (by simp [hxv, he])
      exact List.mem_cons_of_mem _ hx'
  · rw [List.forall_mem_cons]
    exact ⟨fun _ => hname, h.marked⟩
  · rw [List.forall_mem_cons]
    refine ⟨fun _ => ⟨hl, hname, hv⟩, fun n hn hleaf => ?_⟩
    obtain ⟨hlimit, hseen, hnew, -⟩ := hfresh n hn hleaf
    exact ⟨hlimit, hseen, hnew⟩
  · refine List.pairwise_cons.mpr ⟨fun n hn hleaf he => ?_, h.once⟩
    exact absurd he (hfresh n hn hleaf).2.2.2

theorem Shaped.append (hx : Shaped limit visited mid xs) (hy : Shaped limit mid seen ys) :
    Shaped limit visited seen (xs ++ ys) := by
  refine ⟨fun x h => hy.kept (hx.kept h), fun x hs hv => ?_, ?_, ?_, ?_⟩
  · rw [List.map_append, List.mem_append]
    by_cases hm : x ∈ mid
    · exact .inl (hx.found x hm hv)
    · exact .inr (hy.found x hs hm)
  · rw [List.forall_mem_append]
    exact ⟨fun n hn hl => hy.kept (hx.marked n hn hl), hy.marked⟩
  · rw [List.forall_mem_append]
    constructor
    · intro n hn hleaf
      obtain ⟨hl, hs, hv⟩ := hx.expanded n hn hleaf
      exact ⟨hl, hy.kept hs, hv⟩
    · intro n hn hleaf
      obtain ⟨hl, hs, hv⟩ := hy.expanded n hn hleaf
      exact ⟨hl, hs, fun h => hv (hx.kept h)⟩
  · -- What comes first above the limit is marked, so it is not expanded after.
    refine List.pairwise_append.mpr ⟨hx.once, hy.once, fun m hm n hn hleaf he => ?_⟩
    refine Nat.le_of_not_lt fun hlt => ?_
    have hmarked : m.2.name ∈ mid := hx.marked m hm hlt
    exact (hy.expanded n hn hleaf).2.2 (he ▸ hmarked)

variable {σ : Type} {w : World σ} {levels : Nat} {task : Task} {s t : Session σ}
  {found : List (CallTarget × CallTree)} {expansions : List Expansion}

theorem Traced.shaped (h : Traced w levels task visited s found expansions seen t)
    (hl : level + levels = limit) :
    Shaped limit visited seen (CallTree.nodesBelow level (found.map Prod.snd)) := by
  induction h generalizing level with
  | cut target visited s => exact shaped_leaf (by omega)
  | known s hv => exact shaped_leaf fun _ => hv
  | expand hv _ _ ih =>
      rw [List.map_singleton, CallTree.nodesBelow_singleton, CallTree.nodes]
      exact shaped_node (by omega) hv (ih (by omega))
  | done levels owner body visited s => exact shaped_nil limit visited
  | drop _ _ ih => exact ih hl
  | call _ _ _ ihc ihl =>
      rw [List.map_append, CallTree.nodesBelow_append]
      exact (ihc hl).append (ihl hl)

theorem Traced.depth_le (h : Traced w levels task visited s found expansions seen t) :
    ∀ tree ∈ found.map Prod.snd, tree.depth ≤ levels := by
  induction h with
  | cut target visited s | known s hv => simp [CallTree.leaf, CallTree.depth, CallTree.depthBelow]
  | expand _ _ _ ih =>
      have hdepth := CallTree.depthBelow_le ih
      simpa [CallTree.depth] using hdepth
  | done levels owner body visited s => simp
  | drop _ _ ih => exact ih
  | call _ _ _ ihc ihl =>
      rw [List.map_append]
      exact List.forall_mem_append.mpr ⟨ihc, ihl⟩

/-- A tree that was traced at a depth below a limit. The nodes stand in
preorder, each with its level in the tree. -/
structure Shape (limit depth : Int) (name : Name) (visited : List Name) (tree : CallTree)
    (seen : List Name) : Prop where
  root : tree.name = name
  bounded : (tree.depth : Int) ≤ max 0 (limit - depth)
  kept : visited ⊆ seen
  found : ∀ name ∈ seen, name ∉ visited → name ∈ tree.names
  expanded : ∀ n ∈ tree.nodes 0, n.2.isLeaf = false → n.2.name ∈ seen ∧ n.2.name ∉ visited
  distinct : (((tree.nodes 0).filter fun n => !n.2.isLeaf).map fun n => n.2.name).Nodup
  first : ∀ n ∈ tree.nodes 0, n.2.name ∉ visited → depth + n.1 < limit →
    n.2.name ∈ seen ∧ ∃ before sighted after, tree.nodes 0 = before ++ sighted :: after ∧
      sighted.2.name = n.2.name ∧ depth + sighted.1 < limit ∧
      (∀ m ∈ before, m.2.name = n.2.name → limit ≤ depth + m.1) ∧
      ∀ m ∈ before ++ after, m.2.name = n.2.name → m.2.isLeaf = true

theorem Shaped.distinct (h : Shaped limit visited seen xs) :
    ((xs.filter fun n => !n.2.isLeaf).map fun n => n.2.name).Nodup := by
  refine List.pairwise_map.mpr (List.pairwise_filter.mpr ?_)
  refine h.once.imp_of_mem fun {m n} hm _ honce hmleaf hnleaf he => ?_
  have hlimit : limit ≤ m.1 := honce (by simpa using hnleaf) he
  have hexpanded := (h.expanded m hm (by simpa using hmleaf)).1
  omega

def sights (limit : Nat) (name : Name) (n : Nat × CallTree) : Bool :=
  n.2.name = name ∧ n.1 < limit

theorem name_of_find?_sights {n : Nat × CallTree} (h : xs.find? (sights limit name) = some n) :
    n.2.name = name := by
  have hsights := List.find?_some h
  simp only [sights, decide_eq_true_eq] at hsights
  exact hsights.1

theorem Shaped.first (h : Shaped limit visited seen xs) {n : Nat × CallTree} (hn : n ∈ xs)
    (hl : n.1 < limit) :
    ∃ before sighted after, xs = before ++ sighted :: after ∧ sighted.2.name = n.2.name ∧
      sighted.1 < limit ∧ (∀ m ∈ before, m.2.name = n.2.name → limit ≤ m.1) ∧
      ∀ m ∈ before ++ after, m.2.name = n.2.name → m.2.isLeaf = true := by
  have hsome : (xs.find? (sights limit n.2.name)).isSome := by
    rw [List.find?_isSome]
    exact ⟨n, hn, by simp [sights, hl]⟩
  obtain ⟨sighted, hsighted⟩ := Option.isSome_iff_exists.mp hsome
  obtain ⟨hs, before, after, rfl, hbefore⟩ := List.find?_eq_some_iff_append.mp hsighted
  obtain ⟨hname, hlimit⟩ : sighted.2.name = n.2.name ∧ sighted.1 < limit := by
    simpa [sights] using hs
  have hearlier (m : Nat × CallTree) (hm : m ∈ before) (he : m.2.name = n.2.name) :
      limit ≤ m.1 := by
    simpa [sights, he] using hbefore m hm
  refine ⟨before, sighted, after, rfl, hname, hlimit, hearlier, ?_⟩
  intro m hm he
  refine Bool.of_not_eq_false fun hleaf => ?_
  obtain hm | hm := List.mem_append.mp hm
  · have hexpanded := (h.expanded m (List.mem_append_left _ hm) hleaf).1
    have hlate := hearlier m hm he
    omega
  · have honce := (List.pairwise_cons.mp (List.pairwise_append.mp h.once).2.1).1 m hm hleaf
    have hlate := honce (hname.trans he.symm)
    omega

theorem Traced.shape {limit depth : Int} {target : CallTarget} {tree : CallTree}
    (h : Traced w (levelsLeft limit depth) (.enter target) visited s [(target, tree)] expansions
      seen t) : Shape limit depth target.name visited tree seen := by
  have hshaped := h.shaped (Nat.zero_add _)
  rw [List.map_singleton, CallTree.nodesBelow_singleton] at hshaped
  have hlevel (k : Nat) : k < levelsLeft limit depth ↔ depth + k < limit := by
    rw [levelsLeft]
    omega
  refine ⟨?_, ?_, hshaped.kept, ?_, ?_, hshaped.distinct, ?_⟩
  · obtain ⟨children, he⟩ := h.enter_found
    obtain rfl : tree = .node target.name children := by simpa using he
    rfl
  · have hdepth : tree.depth ≤ levelsLeft limit depth := h.depth_le tree (by simp)
    rw [levelsLeft] at hdepth
    omega
  · intro name hs hv
    rw [← CallTree.names_nodes 0 tree]
    exact hshaped.found name hs hv
  · intro n hn hleaf
    exact (hshaped.expanded n hn hleaf).2
  · intro n hn hv hl
    have hlimit := (hlevel n.1).mpr hl
    refine ⟨hshaped.marked n hn hlimit, ?_⟩
    obtain ⟨before, sighted, after, hparts, hname, hs, hbefore, hleaf⟩ := hshaped.first hn hlimit
    refine ⟨before, sighted, after, hparts, hname, (hlevel _).mp hs, fun m hm he => ?_, hleaf⟩
    have hlate := hbefore m hm he
    rw [levelsLeft] at hlate
    omega

/-- A trace gives its tree the name it was asked about. Below the limit, the
first sighting of a name that was not visited before is the only one that
can have children, and it marks the name as visited. -/
theorem trace_shape {limit depth : Int} {target : CallTarget} {tree : CallTree}
    (h : outcome (trace w (levelsLeft limit depth) target visited) s = (.ok (tree, seen), t)) :
    Shape limit depth target.name visited tree seen := by
  obtain ⟨expansions, h⟩ := trace_ok_iff.mp h
  exact h.shape

theorem trace_shape_detour : ∃ tree seen t,
    outcome (trace Script.detour.world (levelsLeft 4 1) Script.detour.root ["m.b"]) (.start ()) =
      (.ok (tree, seen), t) ∧
    tree.names = (["m.r", "m.a", "m.b", "m.x", "m.y", "m.z"] : List Name) ∧
    Shape 4 1 "m.r" ["m.b"] tree seen := by
  obtain ⟨tree, seen, t, h, hnames⟩ : ∃ tree seen t,
      outcome (trace Script.detour.world (levelsLeft 4 1) Script.detour.root ["m.b"])
        (.start ()) = (.ok (tree, seen), t) ∧
      tree.names = (["m.r", "m.a", "m.b", "m.x", "m.y", "m.z"] : List Name) :=
    exists_tree (by decide +kernel)
  exact ⟨tree, seen, t, h, hnames, trace_shape h⟩

/-- An expansion is seen in the tree where its name is first sighted above
the limit, with the levels left below it, and nowhere before it was visited. -/
theorem Traced.sighted (h : Traced w levels task visited s found expansions seen t)
    (hl : level + levels = limit) : ∀ e ∈ expansions, e.target.name ∉ visited ∧
      ∃ n, (CallTree.nodesBelow level (found.map Prod.snd)).find? (sights limit e.target.name) =
          some n ∧
        n.2.children.map CallTree.name = e.callees.map CallTarget.name ∧
        n.1 + e.below + 1 = limit := by
  induction h generalizing level with
  | cut | known | done => simp
  | @expand levels target visited seen s t u body found expansions hv _ hsites ih =>
      rw [List.map_singleton, CallTree.nodesBelow_singleton, CallTree.nodes]
      refine List.forall_mem_cons.mpr ⟨⟨hv, _, List.find?_cons_of_pos ?_, ?_, ?_⟩, fun e he => ?_⟩
      · simp only [sights, CallTree.name, true_and, decide_eq_true_eq]
        omega
      · simpa [CallTree.children, Function.comp_def] using hsites.found_name
      · simp only
        omega
      · have hsum : level + 1 + levels = limit := by omega
        obtain ⟨hfresh, n, hn, hcallees, hbelow⟩ := ih hsum e he
        rw [List.mem_append, List.mem_singleton, not_or] at hfresh
        refine ⟨hfresh.1, n, ?_, hcallees, hbelow⟩
        rw [List.find?_cons_of_neg, hn]
        simp [sights, CallTree.name, Ne.symm hfresh.2]
  | drop _ _ ih => exact ih hl
  | @call levels owner callee body site rest visited mid seen s t u v first found inner expansions
      _ hc _ ihc ihl =>
      have hshaped := hc.shaped hl
      rw [List.map_append, CallTree.nodesBelow_append]
      refine List.forall_mem_append.mpr ⟨fun e he => ?_, fun e he => ?_⟩
      · obtain ⟨hfresh, n, hn, hrest⟩ := ihc hl e he
        exact ⟨hfresh, n, by rw [List.find?_append, hn]; rfl, hrest⟩
      · -- Its name was not visited before, so it was not sighted in the first part.
        obtain ⟨hfresh, n, hn, hrest⟩ := ihl hl e he
        have hnone : (CallTree.nodesBelow level (first.map Prod.snd)).find?
            (sights limit e.target.name) = none := by
          refine List.find?_eq_none.mpr fun m hm hsights => ?_
          obtain ⟨hname, hlimit⟩ : m.2.name = e.target.name ∧ m.1 < limit := by
            simpa [sights] using hsights
          exact hfresh (hname ▸ hshaped.marked m hm hlimit)
        refine ⟨fun hv => hfresh (hshaped.kept hv), n, ?_, hrest⟩
        rw [List.find?_append, hnone, hn]
        rfl

abbrev Row := Nat × Name × List Name

def row (n : Nat × CallTree) : Row :=
  (n.1, n.2.name, n.2.children.map CallTree.name)

def rowSights (limit : Nat) (name : Name) (r : Row) : Bool :=
  r.2.1 = name ∧ r.1 < limit

theorem Expands.first_row {target : CallTarget} {tree : CallTree} {e : Expansion}
    (he : Expands w levels target visited s e)
    (h : outcome (trace w levels target visited) s = (.ok (tree, seen), t)) :
    ∃ r, ((tree.nodes 0).map row).find? (rowSights levels e.target.name) = some r ∧
      r.2.1 = e.target.name ∧ r.2.2 = e.callees.map CallTarget.name ∧
      r.1 + e.below + 1 = levels := by
  obtain ⟨tree', seen', t', expansions, ht, he⟩ := he
  have hsame := trace_ok_iff.mpr ⟨expansions, ht⟩
  obtain ⟨⟨rfl, rfl⟩, rfl⟩ : (tree = tree' ∧ seen = seen') ∧ t = t' := by simpa [h] using hsame
  obtain ⟨-, n, hn, hcallees, hbelow⟩ := ht.sighted (Nat.zero_add _) e he
  rw [List.map_singleton, CallTree.nodesBelow_singleton] at hn
  refine ⟨row n, ?_, name_of_find?_sights hn, hcallees, hbelow⟩
  rw [List.find?_map]
  exact congrArg (Option.map row) hn

end CodeAtlas.CallTrace
