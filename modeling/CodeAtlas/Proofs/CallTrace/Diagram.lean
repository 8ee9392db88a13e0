import CodeAtlas.Proofs.CallTrace.Shape
import CodeAtlas.Proofs.CallTree.Unfolding
import CodeAtlas.Proofs.Diagram.Repetitions

namespace CodeAtlas.CallTrace

open CallTree Client Diagram

variable {calls : Name → List Name} {kept kept' : List (Name × Name)}
  {fulls : List CallTree} {name : Name}

def Covered (calls : Name → List Name) (kept : List (Name × Name)) (name : Name) :
    Prop :=
  ∀ u, Unfolds calls u → u.name = name → u.calls ⊆ kept

/-- No tree of the list is as deep as what unfolds from this name. -/
def Above (calls : Name → List Name) (fulls : List CallTree) (name : Name) : Prop :=
  ∀ u, Unfolds calls u → u.name = name → ∀ f ∈ fulls, f.depth < u.depth

theorem Covered.mono (h : Covered calls kept name) (hk : kept ⊆ kept') :
    Covered calls kept' name :=
  fun u hu hn => List.Subset.trans (h u hu hn) hk

theorem covered_of_unfolds {full : CallTree} (h : Unfolds calls full) (hk : full.calls ⊆ kept) :
    Covered calls kept full.name := by
  intro u hu hn
  rwa [hu.unique h hn]

theorem above_of_unfolds {full : CallTree} (h : Unfolds calls full)
    (hl : ∀ f ∈ fulls, f.depth < full.depth) : Above calls fulls full.name := by
  intro u hu hn
  rwa [hu.unique h hn]

variable {σ : Type} {w : World σ} {levels : Nat} {task : Task} {visited seen : List Name}
  {s t : Session σ} {found : List (CallTarget × CallTree)} {expansions : List Expansion}

/-- A name that was visited is either still being expanded, with a deeper tree
than any that are left, or all its calls are kept. -/
theorem Traced.padded (h : Traced w levels task visited s found expansions seen t)
    (he : ∀ e ∈ expansions, e.callees.map CallTarget.name = calls e.target.name)
    {caller : Option Name} (hn : fulls.map CallTree.name = found.map fun p => p.1.name)
    (hu : ∀ f ∈ fulls, Unfolds calls f) (hd : ∀ f ∈ fulls, f.depth ≤ levels)
    (hv : ∀ x ∈ visited, Above calls fulls x ∨ Covered calls kept x) :
    Padded kept (callsFrom caller (found.map Prod.snd)) (callsFrom caller fulls) ∧
      ∀ x ∈ seen, x ∈ visited ∨ Covered calls (kept ++ callsFrom caller fulls) x := by
  induction h generalizing kept caller fulls with
  | cut target visited s =>
      obtain ⟨full, rfl, hname⟩ := List.map_eq_singleton_iff.mp hn
      refine ⟨?_, fun x hx => .inl hx⟩
      have hleaf : full.calls = [] := calls_eq_nil_of_depth (by simpa using hd)
      rw [List.map_singleton, callsFrom_singleton, callsFrom_singleton, hleaf, hname]
      exact .refl _ _
  | @known levels target visited s hknown =>
      obtain ⟨full, rfl, hname⟩ := List.map_eq_singleton_iff.mp hn
      refine ⟨?_, fun x hx => .inl hx⟩
      have hfull : Unfolds calls full := hu full (by simp)
      have hcalls : full.calls ⊆ kept := by
        obtain habove | hcovered := hv target.name hknown
        · -- A name that is still being expanded would be below itself.
          have hdepth : full.depth < full.depth := habove full hfull hname full (by simp)
          omega
        · exact hcovered full hfull hname
      rw [List.map_singleton, callsFrom_singleton, callsFrom_singleton, hname]
      exact .append (.refl _ _) (.of_subset (List.subset_append_of_subset_left _ hcalls))
  | @expand levels target visited seen s t u body found expansions _ _ hs ih =>
      obtain ⟨⟨name, children⟩, rfl, hname⟩ := List.map_eq_singleton_iff.mp hn
      obtain rfl : name = target.name := hname
      obtain ⟨hcallees, hinner⟩ := List.forall_mem_cons.mp he
      have hfull : Unfolds calls (.node target.name children) := hu _ (by simp)
      have hdepth : (CallTree.node target.name children).depth ≤ levels + 1 := hd _ (by simp)
      obtain ⟨hchildren, hbelow⟩ := hfull.parts
      have hlower (f : CallTree) (hf : f ∈ children) :
          f.depth < (CallTree.node target.name children).depth := depth_lt_depthBelow hf
      have hnames : children.map CallTree.name = found.map fun p => p.1.name := by
        rw [hchildren, ← hcallees, List.map_map]
        rfl
      have hdeep : ∀ f ∈ children, f.depth ≤ levels := by
        intro f hf
        have hlt := hlower f hf
        omega
      have hstart : ∀ x ∈ visited ++ [target.name],
          Above calls children x ∨ Covered calls (kept ++ caller.toList.map (·, target.name)) x := by
        intro x hx
        obtain hx | hx := List.mem_append.mp hx
        · refine (hv x hx).imp ?_ fun h => h.mono (List.subset_append_left _ _)
          intro habove u hu hn f hf
          exact Nat.lt_trans (hlower f hf) (habove u hu hn _ (by simp))
        · obtain rfl := List.mem_singleton.mp hx
          exact .inl (above_of_unfolds hfull hlower)
      obtain ⟨hpadded, hseen⟩ := ih hinner hnames hbelow hdeep hstart
      have hcalls : (CallTree.node target.name children).calls =
          callsFrom (some target.name) children := by rw [CallTree.calls, callsBelow_eq]
      rw [List.map_singleton, callsFrom_singleton, callsFrom_singleton, ← List.append_assoc,
        CallTree.calls, callsBelow_eq, hcalls]
      refine ⟨.append (.refl _ _) hpadded, ?_⟩
      intro x hx
      obtain hx | hx := hseen x hx
      · refine (List.mem_append.mp hx).imp_right fun hx => ?_
        obtain rfl := List.mem_singleton.mp hx
        -- The expansion is over, and every call below it is kept.
        apply covered_of_unfolds hfull
        rw [hcalls]
        exact List.subset_append_right _ _
      · exact .inr hx
  | done =>
      obtain rfl : fulls = [] := by simpa using hn
      exact ⟨.nil _, fun x hx => .inl hx⟩
  | drop _ _ ih => exact ih he hn hu hd hv
  | @call levels owner callee body site rest visited mid seen s t u v first found inner expansions
      _ hc _ ihc ihl =>
      obtain ⟨hinner, hlater⟩ := List.forall_mem_append.mp he
      rw [List.map_append] at hn
      obtain ⟨fulls, others, rfl, hfirst, hrest⟩ := List.map_eq_append_iff.mp hn
      obtain ⟨hu, hu'⟩ := List.forall_mem_append.mp hu
      obtain ⟨hd, hd'⟩ := List.forall_mem_append.mp hd
      have hstart : ∀ x ∈ visited, Above calls fulls x ∨ Covered calls kept x := by
        intro x hx
        exact (hv x hx).imp_left fun h u hu hn f hf => h u hu hn f (List.mem_append_left _ hf)
      obtain ⟨hpadded, hmid⟩ := ihc hinner hfirst hu hd hstart
      have hnext : ∀ x ∈ mid,
          Above calls others x ∨ Covered calls (kept ++ callsFrom caller fulls) x := by
        intro x hx
        obtain hx | hx := hmid x hx
        · refine (hv x hx).imp ?_ fun h => h.mono (List.subset_append_left _ _)
          intro habove u hu hn f hf
          exact habove u hu hn f (List.mem_append_right _ hf)
        · exact .inr hx
      obtain ⟨hpadded', hseen⟩ := ihl hlater hrest hu' hd' hnext
      rw [List.map_append, callsFrom_append, callsFrom_append, ← List.append_assoc]
      refine ⟨hpadded.append hpadded', ?_⟩
      intro x hx
      obtain hx | hx := hseen x hx
      · exact (hmid x hx).imp_right fun h => h.mono (List.subset_append_left _ _)
      · exact .inr hx

/-- The diagram of a fresh trace is that of the whole unfolding of the calls,
if that is no deeper than the limit. -/
theorem ofCalls_trace {limit : Int} {target : CallTarget} {tree full : CallTree}
    (h : outcome (trace w (levelsLeft limit 0) target []) s = (.ok (tree, seen), t))
    (hc : ∀ e, Expands w (levelsLeft limit 0) target [] s e →
      e.callees.map CallTarget.name = calls e.target.name)
    (hu : Unfolds calls full) (hn : full.name = target.name) (hd : full.depth ≤ limit) :
    ofCalls tree = ofCalls full := by
  obtain ⟨expansions, h⟩ := trace_ok_iff.mp h
  have hroot : tree.name = target.name := by simpa using h.found_name
  have hdeep : full.depth ≤ levelsLeft limit 0 := by
    rw [levelsLeft]
    omega
  have hpadded : Padded [] (callsFrom none [tree]) (callsFrom none [full]) :=
    (h.padded (fun e he => hc e ⟨_, _, _, _, h, he⟩) (by simpa using hn) (by simpa using hu)
      (by simpa using hdeep) (by simp)).1
  refine ofCalls_eq_of_padded (hroot.trans hn.symm) ?_
  simpa [callsFrom] using hpadded

def Script.callsOf (script : Script) (name : Name) : List Name :=
  match script.lines.find? fun l => l.target.name == name with
  | some l => l.callees.map fun callee => "m." ++ String.singleton callee
  | none => []

theorem Expands.callees_eq {target : CallTarget} {tree : CallTree} {e : Expansion}
    (he : Expands w levels target visited s e)
    (h : outcome (trace w levels target visited) s = (.ok (tree, seen), t))
    (hc : ∀ r ∈ (tree.nodes 0).map row, ∀ first ∈ ((tree.nodes 0).map row).find?
      (rowSights levels r.2.1), first.2.2 = calls r.2.1) :
    e.callees.map CallTarget.name = calls e.target.name := by
  obtain ⟨r, hr, hname, hcallees, -⟩ := he.first_row h
  rw [← hcallees, ← hname]
  exact hc r (List.mem_of_find?_eq_some hr) r (by rwa [hname])

theorem ofCalls_trace_diamond : ∃ tree seen t full,
    outcome (trace Script.diamond.world (levelsLeft 4 0) Script.diamond.root []) (.start ()) =
      (.ok (tree, seen), t) ∧
    tree.names = (["m.r", "m.a", "m.c", "m.d", "m.b", "m.c"] : List Name) ∧
    full.names = (["m.r", "m.a", "m.c", "m.d", "m.b", "m.c", "m.d"] : List Name) ∧
    Unfolds Script.diamond.callsOf full ∧ ofCalls tree = ofCalls full := by
  obtain ⟨tree, seen, t, h, hview⟩ : ∃ tree seen t,
      outcome (trace Script.diamond.world (levelsLeft 4 0) Script.diamond.root []) (.start ()) =
        (.ok (tree, seen), t) ∧
      (tree.names, (tree.nodes 0).map row) =
        ((["m.r", "m.a", "m.c", "m.d", "m.b", "m.c"],
          [(0, "m.r", ["m.a", "m.b"]), (1, "m.a", ["m.c"]), (2, "m.c", ["m.d"]), (3, "m.d", []),
            (1, "m.b", ["m.c"]), (2, "m.c", [])]) : List Name × List Row) := exists_tree (by decide +kernel)
  obtain ⟨hnames, hrows⟩ := Prod.mk.inj hview
  have hd : Unfolds Script.diamond.callsOf (.leaf "m.d") := .node (by decide +kernel) (by simp)
  have hc : Unfolds Script.diamond.callsOf (.node "m.c" [.leaf "m.d"]) :=
    .node (by decide +kernel) (by simpa using hd)
  have hu : Unfolds Script.diamond.callsOf (.node "m.r" [.node "m.a" [.node "m.c" [.leaf "m.d"]],
      .node "m.b" [.node "m.c" [.leaf "m.d"]]]) := by
    refine .node (by decide +kernel) ?_
    simp only [List.forall_mem_cons, List.not_mem_nil, false_imp_iff, implies_true, and_true]
    exact ⟨.node (by decide +kernel) (by simpa using hc),
      .node (by decide +kernel) (by simpa using hc)⟩
  refine ⟨tree, seen, t, _, h, hnames, rfl, hu, ?_⟩
  refine ofCalls_trace h (fun e he => he.callees_eq h ?_) hu rfl (by decide +kernel)
  rw [hrows]
  decide +kernel

end CodeAtlas.CallTrace
