import CodeAtlas.Proofs.CallTrace.Repeated
import CodeAtlas.Proofs.CallTrace.Shape
import CodeAtlas.Proofs.CallTree.Calls

namespace CodeAtlas.CallTrace

open Client

variable {σ : Type} {w : World σ} {levels : Nat} {task : Task} {visited seen : List Name}
  {s t : Session σ} {found : List (CallTarget × CallTree)} {expansions : List Expansion}

def Expansion.calls (e : Expansion) : List (Name × Name) :=
  e.callees.map fun callee => (e.target.name, callee.name)

theorem Traced.mem_calls (h : Traced w levels task visited s found expansions seen t)
    (call : Name × Name) :
    call ∈ (found.map Prod.snd).flatMap CallTree.calls ↔
      call ∈ expansions.flatMap Expansion.calls := by
  induction h with
  | cut | known | done => rfl
  | @expand levels target visited seen s t u body found expansions _ _ hs ih =>
      have hnames : ((found.map Prod.snd).map fun tree => (target.name, tree.name)) =
          (⟨levels, target, found.map Prod.fst⟩ : Expansion).calls := by
        simpa [Expansion.calls, Function.comp_def] using
          congrArg (List.map fun name => (target.name, name)) hs.found_name
      rw [List.map_singleton, List.flatMap_singleton, CallTree.calls, CallTree.mem_callsBelow,
        List.flatMap_cons, List.mem_append, ih, hnames]
  | drop _ _ ih => exact ih
  | call _ _ _ ihc ihl =>
      simp only [List.map_append, List.flatMap_append, List.mem_append, ihc, ihl]

theorem Traced.cut_off (h : Traced w 0 task visited s found expansions seen t) :
    seen = visited ∧ expansions = [] := by
  generalize hl : 0 = levels at h
  induction h with
  | cut | done => exact ⟨rfl, rfl⟩
  | known | expand => cases hl
  | drop _ _ ih => exact ih hl
  | call _ _ _ ihc ihl =>
      obtain ⟨rfl, rfl⟩ := ihc hl
      obtain ⟨rfl, rfl⟩ := ihl hl
      exact ⟨rfl, rfl⟩

/-- Of the functions that the second trace expands on its last level, the
first expands none, or the same on its own last level. -/
def NoneMoved (first second : List Expansion) : Prop :=
  ∀ e ∈ first, ∀ e' ∈ second, e.target.name = e'.target.name → e'.below = 0 →
    e.target = e'.target ∧ e.below = 0

/-- What the second trace visited more was expanded on its last level. -/
def Ahead (second : List Expansion) (visited visited' : List Name) : Prop :=
  visited ⊆ visited' ∧
    ∀ name ∈ visited', name ∈ visited ∨ ∃ e ∈ second, e.target.name = name ∧ e.below = 0

theorem Ahead.append {second : List Expansion} {visited visited' : List Name}
    (h : Ahead second visited visited') (name : Name) :
    Ahead second (visited ++ [name]) (visited' ++ [name]) := by
  refine ⟨fun x hx => ?_, fun x hx => ?_⟩
  · exact List.mem_append.mpr ((List.mem_append.mp hx).imp_left (h.1 ·))
  · obtain hx | hx := List.mem_append.mp hx
    · exact (h.2 x hx).imp_left (List.mem_append_left _)
    · exact .inl (List.mem_append_right _ hx)

/-- Two traces of one task, with one level more in the second, go side by
side. They part where only one of them expands a function, which by the
assumption is on the last level. -/
theorem Traced.side_by_side (hw : Steady w) {first second : List Expansion}
    (hk : NoneMoved first second) {visited' seen' : List Name} {s' t' : Session σ}
    {found' : List (CallTarget × CallTree)} {expansions' : List Expansion}
    (h : Traced w levels task visited s found expansions seen t)
    (h' : Traced w (levels + 1) task visited' s' found' expansions' seen' t')
    (hs : Faithful w s) (hs' : Faithful w s') (hf : expansions ⊆ first)
    (hf' : expansions' ⊆ second) (ha : Ahead second visited visited') :
    Ahead second seen seen' ∧ ∀ e ∈ expansions, ∃ e' ∈ second, e.target = e'.target := by
  induction h generalizing visited' s' found' expansions' seen' t' with
  | cut target visited s =>
      refine ⟨?_, by simp⟩
      cases h' with
      | known => exact ha
      | expand hv _ hsites =>
          obtain ⟨rfl, rfl⟩ := hsites.cut_off
          refine ⟨fun x hx => List.mem_append_left _ (ha.1 hx), fun x hx => ?_⟩
          obtain hx | hx := List.mem_append.mp hx
          · exact ha.2 x hx
          · obtain rfl := List.mem_singleton.mp hx
            exact .inr ⟨_, hf' List.mem_cons_self, rfl, rfl⟩
  | known s hv =>
      cases h' with
      | known => exact ⟨ha, by simp⟩
      | expand hv' => exact absurd (ha.1 hv) hv'
  | @expand levels target visited seen s t u body found expansions hv hb hsites ih =>
      have he : ⟨levels, target, found.map Prod.fst⟩ ∈ first := hf List.mem_cons_self
      cases h' with
      | known _ hv' =>
          -- The second trace was here before, so it expanded the function on its last level.
          obtain hold | ⟨e', he', hname, hlast⟩ := ha.2 _ hv'
          · exact absurd hold hv
          · obtain ⟨hsame, hbelow⟩ := hk _ he e' he' hname.symm hlast
            obtain rfl : levels = 0 := hbelow
            obtain ⟨rfl, rfl⟩ := hsites.cut_off
            refine ⟨⟨?_, fun x hx => ?_⟩, ?_⟩
            · exact List.append_subset.mpr ⟨ha.1, by simpa using hv'⟩
            · exact (ha.2 x hx).imp_left (List.mem_append_left _)
            · simpa using ⟨e', he', hsame⟩
      | expand hv' hb' hsites' =>
          have hread := repeats_readText hw target.uri (some target.range)
          obtain rfl := hread.unique hs hs' hb hb'
          obtain ⟨hahead, hall⟩ := ih hsites' (hread.kept hs hb) (hread.kept hs' hb')
            (fun e h => hf (List.mem_cons_of_mem _ h)) (fun e h => hf' (List.mem_cons_of_mem _ h))
            (ha.append target.name)
          exact ⟨hahead, List.forall_mem_cons.mpr ⟨⟨_, hf' List.mem_cons_self, rfl⟩, hall⟩⟩
  | done =>
      cases h' with
      | done => exact ⟨ha, by simp⟩
  | @drop levels owner body site rest _ _ _ _ _ _ _ hr _ ih =>
      have hresolve := repeats_resolve hw owner (placeOf owner body site.offset) site
      cases h' with
      | drop hr' hl' =>
          exact ih hl' (hresolve.kept hs hr) (hresolve.kept hs' hr') hf hf' ha
      | call hr' => cases hresolve.unique hs hs' hr hr'
  | @call levels owner callee body site rest _ _ _ _ _ _ _ _ _ _ _ hr hc hl ihc ihl =>
      have hresolve := repeats_resolve hw owner (placeOf owner body site.offset) site
      cases h' with
      | drop hr' => cases hresolve.unique hs hs' hr hr'
      | call hr' hc' hl' =>
          cases hresolve.unique hs hs' hr hr'
          obtain ⟨hinner, hlater⟩ := List.append_subset.mp hf
          obtain ⟨hinner', hlater'⟩ := List.append_subset.mp hf'
          have ht := hresolve.kept hs hr
          have ht' := hresolve.kept hs' hr'
          obtain ⟨hmid, hcallee⟩ := ihc hc' ht ht' hinner hinner' ha
          obtain ⟨hend, hrest⟩ :=
            ihl hl' (hc.faithful hw ht) (hc'.faithful hw ht') hlater hlater' hmid
          exact ⟨hend, List.forall_mem_append.mpr ⟨hcallee, hrest⟩⟩

variable {d : Nat} {target : CallTarget} {tree tree' : CallTree} {seen' : List Name}
  {s' t' : Session σ}

/-- Beside a steady server, and with the texts of the files, a fresh trace
with one level more keeps every name and every call. The proviso is that no
function moves to its last level, unless from the last level before. -/
theorem calls_subset_of_raised (hw : Steady w) (hs : Faithful w s) (hs' : Faithful w s')
    (h : outcome (trace w d target []) s = (.ok (tree, seen), t))
    (h' : outcome (trace w (d + 1) target []) s' = (.ok (tree', seen'), t'))
    (hk : ∀ e e', Expands w d target [] s e → Expands w (d + 1) target [] s' e' →
      e.target.name = e'.target.name → e'.below = 0 → e.target = e'.target ∧ e.below = 0) :
    tree.names ⊆ tree'.names ∧ tree.calls ⊆ tree'.calls := by
  obtain ⟨first, h⟩ := trace_ok_iff.mp h
  obtain ⟨second, h'⟩ := trace_ok_iff.mp h'
  have hnone : NoneMoved first second := fun e he e' he' =>
    hk e e' ⟨_, _, _, _, h, he⟩ ⟨_, _, _, _, h', he'⟩
  have hstart : Ahead second ([] : List Name) [] := ⟨List.Subset.refl _, by simp⟩
  obtain ⟨-, hall⟩ := h.side_by_side hw hnone h' hs hs' (List.Subset.refl _)
    (List.Subset.refl _) hstart
  have hcalls : tree.calls ⊆ tree'.calls := by
    intro call hcall
    obtain ⟨e, he, hcall⟩ := List.mem_flatMap.mp ((h.mem_calls call).mp (by simpa using hcall))
    obtain ⟨e', he', hsame⟩ := hall e he
    have hmakes : Makes w e.target e.callees := (h.makes hw hs).2 e he
    have hmakes' : Makes w e'.target e'.callees := (h'.makes hw hs').2 e' he'
    have hcallees : e.callees = e'.callees := (hsame ▸ hmakes).unique hw hmakes'
    rw [Expansion.calls, hsame, hcallees] at hcall
    simpa using (h'.mem_calls call).mpr (List.mem_flatMap.mpr ⟨e', he', hcall⟩)
  refine ⟨fun name hname => ?_, hcalls⟩
  have hroot : tree.name = tree'.name := by
    obtain ⟨children, htree⟩ := h.enter_found
    obtain ⟨children', htree'⟩ := h'.enter_found
    simp_all [CallTree.name]
  rw [CallTree.names_eq, hroot] at hname
  rw [CallTree.names_eq]
  obtain rfl | hname := List.mem_cons.mp hname
  · exact List.mem_cons_self
  · obtain ⟨call, hcall, rfl⟩ := List.mem_map.mp hname
    exact List.mem_cons_of_mem _ (List.mem_map_of_mem (hcalls hcall))

theorem Script.steady (script : Script) : Steady script.world :=
  ⟨fun _ _ _ _ => rfl, fun _ _ _ _ => rfl, fun _ _ _ => rfl⟩

theorem calls_subset_of_raised_detour : ∃ tree seen t tree' seen' t',
    outcome (trace Script.detour.world 2 Script.detour.root []) (.start ()) =
      (.ok (tree, seen), t) ∧
    outcome (trace Script.detour.world (2 + 1) Script.detour.root []) (.start ()) =
      (.ok (tree', seen'), t') ∧
    tree.calls =
      ([("m.r", "m.a"), ("m.a", "m.b"), ("m.r", "m.x"), ("m.x", "m.y")] : List (Name × Name)) ∧
    tree.names ⊆ tree'.names ∧ tree.calls ⊆ tree'.calls := by
  obtain ⟨tree, seen, t, h, hview⟩ : ∃ tree seen t,
      outcome (trace Script.detour.world 2 Script.detour.root []) (.start ()) =
        (.ok (tree, seen), t) ∧
      (tree.calls, (tree.nodes 0).map row) =
        (([("m.r", "m.a"), ("m.a", "m.b"), ("m.r", "m.x"), ("m.x", "m.y")],
          [(0, "m.r", ["m.a", "m.x"]), (1, "m.a", ["m.b"]), (2, "m.b", []), (1, "m.x", ["m.y"]),
            (2, "m.y", [])]) : List (Name × Name) × List Row) :=
    exists_tree (by decide +kernel)
  obtain ⟨tree', seen', t', h', hrows'⟩ : ∃ tree seen t,
      outcome (trace Script.detour.world (2 + 1) Script.detour.root []) (.start ()) =
        (.ok (tree, seen), t) ∧
      (tree.nodes 0).map row =
        ([(0, "m.r", ["m.a", "m.x"]), (1, "m.a", ["m.b"]), (2, "m.b", ["m.x"]), (3, "m.x", []),
          (1, "m.x", ["m.y"]), (2, "m.y", ["m.z"]), (3, "m.z", [])] : List Row) :=
    exists_tree (by decide +kernel)
  obtain ⟨hcalls, hrows⟩ := Prod.mk.inj hview
  have hs : Faithful Script.detour.world (.start ()) := faithful_start ()
  refine ⟨tree, seen, t, tree', seen', t', h, h', hcalls, ?_⟩
  refine calls_subset_of_raised Script.detour.steady hs hs h h' fun e e' he he' hname hbelow => ?_
  obtain ⟨r, hr, hrname, -, hlevel⟩ := he.first_row h
  obtain ⟨r', hr', hrname', -, hlevel'⟩ := he'.first_row h'
  have hmem := List.mem_of_find?_eq_some hr
  have hmem' := List.mem_of_find?_eq_some hr'
  rw [hrows] at hmem
  rw [hrows'] at hmem'
  have hlast : ∀ p ∈ ([(0, "m.r", ["m.a", "m.x"]), (1, "m.a", ["m.b"]), (2, "m.b", []),
      (1, "m.x", ["m.y"]), (2, "m.y", [])] : List Row),
      ∀ q ∈ ([(0, "m.r", ["m.a", "m.x"]), (1, "m.a", ["m.b"]), (2, "m.b", ["m.x"]),
        (3, "m.x", []), (1, "m.x", ["m.y"]), (2, "m.y", ["m.z"]), (3, "m.z", [])] : List Row),
      q.1 = 2 → p.2.1 = q.2.1 → p.1 = 2 := by decide +kernel
  have hcut : r.1 = 2 :=
    hlast r hmem r' hmem' (by omega) (by rw [hrname, hrname', hname])
  omega

/-- Under the higher limit a function is expanded at the end of the long way
to it, and not on the short way, where there were levels left for its calls. -/
theorem raised_limit_hides_call : Steady Script.detour.world ∧ ∃ tree seen t tree' seen' t',
    outcome (trace Script.detour.world 3 Script.detour.root []) (.start ()) =
      (.ok (tree, seen), t) ∧
    outcome (trace Script.detour.world (3 + 1) Script.detour.root []) (.start ()) =
      (.ok (tree', seen'), t') ∧
    .ofString "m.z" ∈ tree.names ∧ .ofString "m.z" ∉ tree'.names ∧
    (.ofString "m.y", .ofString "m.z") ∈ tree.calls ∧
    (.ofString "m.y", .ofString "m.z") ∉ tree'.calls := by
  obtain ⟨tree, seen, t, h, hcalls⟩ : ∃ tree seen t,
      outcome (trace Script.detour.world 3 Script.detour.root []) (.start ()) =
        (.ok (tree, seen), t) ∧
      decide (.ofString "m.z" ∈ tree.names ∧ (.ofString "m.y", .ofString "m.z") ∈ tree.calls) =
        true :=
    exists_tree (by decide +kernel)
  obtain ⟨tree', seen', t', h', hcalls'⟩ : ∃ tree seen t,
      outcome (trace Script.detour.world (3 + 1) Script.detour.root []) (.start ()) =
        (.ok (tree, seen), t) ∧
      decide (.ofString "m.z" ∈ tree.names ∨ (.ofString "m.y", .ofString "m.z") ∈ tree.calls) =
        false :=
    exists_tree (by decide +kernel)
  obtain ⟨hname, hcall⟩ := of_decide_eq_true hcalls
  obtain ⟨hname', hcall'⟩ := not_or.mp (of_decide_eq_false hcalls')
  exact ⟨Script.detour.steady, tree, seen, t, tree', seen', t', h, h', hname, hname', hcall, hcall'⟩

end CodeAtlas.CallTrace
