import CodeAtlas.Proofs.CallTrace.Shape
import CodeAtlas.Proofs.CallTree.Unfolding

namespace CodeAtlas.CallTrace

open Client

variable {σ : Type} {w : World σ} {levels : Nat} {task : Task} {visited seen : List Name}
  {s t : Session σ} {found : List (CallTarget × CallTree)} {expansions : List Expansion}

def Expansion.raised (more : Nat) (e : Expansion) : Expansion := { e with below := e.below + more }

/-- The account of a trace none of whose trees reaches down to the last level
is its account under any higher limit, with more levels left throughout. -/
theorem Traced.raised (more : Nat) (h : Traced w levels task visited s found expansions seen t)
    (hd : ∀ tree ∈ found.map Prod.snd, tree.depth < levels) :
    Traced w (levels + more) task visited s found (expansions.map (Expansion.raised more)) seen
      t := by
  induction h with
  | cut target visited s =>
      -- No depth is below zero: on the last level the assumption fails.
      exact absurd (hd _ List.mem_cons_self) (Nat.not_lt_zero _)
  | @known levels target visited s hv =>
      rw [Nat.add_right_comm]
      exact .known s hv
  | @expand levels target visited seen s t u body found expansions hv hb _ ih =>
      have hroot : CallTree.depthBelow (found.map Prod.snd) < levels + 1 := by
        simpa [CallTree.depth] using hd
      rw [Nat.add_right_comm]
      refine .expand hv hb (ih fun tree htree => ?_)
      have hbelow := CallTree.depth_lt_depthBelow htree
      omega
  | done levels owner body visited s => exact .done (levels + more) owner body visited s
  | drop hr _ ih => exact .drop hr (ih hd)
  | call hr _ _ ihc ihl =>
      rw [List.map_append, List.forall_mem_append] at hd
      rw [List.map_append]
      exact .call hr (ihc hd.1) (ihl hd.2)

variable {limit depth : Int} {target : CallTarget} {tree : CallTree}

/-- A trace that stays above its limit goes the same way under any higher
one, up to the session it leaves, and has visited every name of its tree. -/
theorem trace_final
    (h : outcome (trace w (levelsLeft limit depth) target visited) s = (.ok (tree, seen), t))
    (hd : depth + tree.depth < limit) :
    (∀ higher, limit ≤ higher →
      outcome (trace w (levelsLeft higher depth) target visited) s = (.ok (tree, seen), t)) ∧
    tree.names ⊆ seen := by
  have hlevels : tree.depth < levelsLeft limit depth := by
    rw [levelsLeft]
    omega
  refine ⟨fun higher hle => ?_, fun name hname => ?_⟩
  · obtain ⟨expansions, htraced⟩ := trace_ok_iff.mp h
    have hraised := htraced.raised (levelsLeft higher depth - levelsLeft limit depth)
      (by simpa using hlevels)
    have hsum : levelsLeft limit depth + (levelsLeft higher depth - levelsLeft limit depth) =
        levelsLeft higher depth := by
      simp only [levelsLeft]
      omega
    rw [hsum] at hraised
    exact trace_ok_iff.mpr ⟨_, hraised⟩
  · obtain ⟨expansions, htraced⟩ := trace_ok_iff.mp h
    have hshape := htraced.shape
    rw [← CallTree.names_nodes 0 tree] at hname
    obtain ⟨n, hn, rfl⟩ := List.mem_map.mp hname
    have hlevel := CallTree.level_le_of_mem_nodes hn
    by_cases hv : n.2.name ∈ visited
    · exact hshape.kept hv
    · exact (hshape.first n hn hv (by omega)).1

theorem trace_final_detour : ∃ tree seen t,
    outcome (trace Script.detour.world (levelsLeft 5 1) Script.detour.root ["m.b"]) (.start ()) =
      (.ok (tree, seen), t) ∧
    tree.names = (["m.r", "m.a", "m.b", "m.x", "m.y", "m.z"] : List Name) ∧ tree.depth = 3 ∧
    outcome (trace Script.detour.world (levelsLeft 9 1) Script.detour.root ["m.b"]) (.start ()) =
      (.ok (tree, seen), t) ∧
    tree.names ⊆ seen := by
  obtain ⟨tree, seen, t, h, hview⟩ : ∃ tree seen t,
      outcome (trace Script.detour.world (levelsLeft 5 1) Script.detour.root ["m.b"])
        (.start ()) = (.ok (tree, seen), t) ∧
      (tree.names, tree.depth) = ((["m.r", "m.a", "m.b", "m.x", "m.y", "m.z"], 3) : List Name × Nat) :=
    exists_tree (by decide +kernel)
  obtain ⟨hnames, hdepth⟩ := Prod.mk.inj hview
  obtain ⟨hfinal, hseen⟩ := trace_final h (by omega)
  exact ⟨tree, seen, t, h, hnames, hdepth, hfinal 9 (by decide), hseen⟩

end CodeAtlas.CallTrace
