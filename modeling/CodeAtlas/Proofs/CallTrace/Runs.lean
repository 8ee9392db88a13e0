import CodeAtlas.CallTrace
import CodeAtlas.Proofs.Client.Outcome

namespace CodeAtlas.CallTrace

open Client

variable {σ : Type} (w : World σ)

/-- A function whose text was searched, with what its call sites led to, in
their order, and the levels that were left below it. -/
structure Expansion where
  below : Nat
  target : CallTarget
  callees : List CallTarget

inductive Task
  | enter (target : CallTarget)
  | sites (owner : CallTarget) (body : List Char) (rest : List CallSite)

/-- Each function that was gone into stands beside its tree. -/
inductive Traced : Nat → Task → List Name → Session σ → List (CallTarget × CallTree) →
    List Expansion → List Name → Session σ → Prop
  | cut (target : CallTarget) (visited : List Name) (s : Session σ) :
      Traced 0 (.enter target) visited s [(target, .leaf target.name)] [] visited s
  | known {levels : Nat} {target : CallTarget} {visited : List Name} (s : Session σ)
      (hv : target.name ∈ visited) :
      Traced (levels + 1) (.enter target) visited s [(target, .leaf target.name)] [] visited s
  | expand {levels : Nat} {target : CallTarget} {visited seen : List Name} {s t u : Session σ}
      {body : String} {found : List (CallTarget × CallTree)} {expansions : List Expansion}
      (hv : target.name ∉ visited)
      (hb : outcome (readText w target.uri (some target.range)) s = (.ok body, t))
      (hs : Traced levels (.sites target body.toList (sitesOf target body.toList))
        (visited ++ [target.name]) t found expansions seen u) :
      Traced (levels + 1) (.enter target) visited s
        [(target, .node target.name (found.map Prod.snd))]
        (⟨levels, target, found.map Prod.fst⟩ :: expansions) seen u
  | done (levels : Nat) (owner : CallTarget) (body : List Char) (visited : List Name)
      (s : Session σ) : Traced levels (.sites owner body []) visited s [] [] visited s
  | drop {levels : Nat} {owner : CallTarget} {body : List Char} {site : CallSite}
      {rest : List CallSite} {visited seen : List Name} {s t u : Session σ}
      {found : List (CallTarget × CallTree)} {expansions : List Expansion}
      (hr : outcome (resolve w owner (placeOf owner body site.offset) site) s = (.ok none, t))
      (hl : Traced levels (.sites owner body rest) visited t found expansions seen u) :
      Traced levels (.sites owner body (site :: rest)) visited s found expansions seen u
  | call {levels : Nat} {owner callee : CallTarget} {body : List Char} {site : CallSite}
      {rest : List CallSite} {visited mid seen : List Name} {s t u v : Session σ}
      {first found : List (CallTarget × CallTree)} {inner expansions : List Expansion}
      (hr : outcome (resolve w owner (placeOf owner body site.offset) site) s =
        (.ok (some callee), t))
      (hc : Traced levels (.enter callee) visited t first inner mid u)
      (hl : Traced levels (.sites owner body rest) mid u found expansions seen v) :
      Traced levels (.sites owner body (site :: rest)) visited s (first ++ found)
        (inner ++ expansions) seen v

/-- A trace that gave a tree searched the text of this function. -/
def Expands (levels : Nat) (target : CallTarget) (visited : List Name) (s : Session σ)
    (e : Expansion) : Prop :=
  ∃ tree seen t expansions,
    Traced w levels (.enter target) visited s [(target, tree)] expansions seen t ∧ e ∈ expansions

variable {w} {levels : Nat} {target : CallTarget} {visited seen : List Name} {s t : Session σ}
  {found : List (CallTarget × CallTree)} {expansions : List Expansion}

theorem Traced.enter_found
    (h : Traced w levels (.enter target) visited s found expansions seen t) :
    ∃ children, found = [(target, .node target.name children)] := by
  cases h with
  | cut | known => exact ⟨[], rfl⟩
  | expand => exact ⟨_, rfl⟩

theorem Traced.found_name {task : Task}
    (h : Traced w levels task visited s found expansions seen t) :
    (found.map fun p => p.2.name) = found.map fun p => p.1.name := by
  induction h with
  | cut | known | expand | done => rfl
  | drop _ _ ih => exact ih
  | call _ _ _ ihc ihl => rw [List.map_append, List.map_append, ihc, ihl]

variable (w) in
/-- Trace what the sites lead to, after what was traced before. -/
def traceSites (levels : Nat) (owner : CallTarget) (body : List Char) (sites : List CallSite)
    (before : List CallTree × List Name) : Client σ (List CallTree × List Name) :=
  sites.foldlM (fun done site => do
    match ← resolve w owner (placeOf owner body site.offset) site with
    | none => return done
    | some callee => do
      let (child, seen) ← trace w levels callee done.2
      return (done.1 ++ [child], seen)) before

theorem trace_succ (levels : Nat) (target : CallTarget) (visited : List Name) :
    trace w (levels + 1) target visited =
      if target.name ∈ visited then pure (.leaf target.name, visited)
      else do
        let body ← readText w target.uri (some target.range)
        let (children, seen) ← traceSites w levels target body.toList
          (sitesOf target body.toList) ([], visited ++ [target.name])
        return (.node target.name children, seen) := rfl

theorem traceSites_cons (levels : Nat) (owner : CallTarget) (body : List Char) (site : CallSite)
    (rest : List CallSite) (before : List CallTree × List Name) :
    traceSites w levels owner body (site :: rest) before = (do
      match ← resolve w owner (placeOf owner body site.offset) site with
      | none => traceSites w levels owner body rest before
      | some callee => do
        let (child, seen) ← trace w levels callee before.2
        traceSites w levels owner body rest (before.1 ++ [child], seen)) := by
  rw [traceSites, List.foldlM_cons, bind_assoc]
  congr 1
  funext found
  cases found <;> simp [traceSites]

theorem traced_of_traceSites {owner : CallTarget} {body : List Char} {sites : List CallSite}
    {before all : List CallTree}
    (ih : ∀ {target : CallTarget} {visited seen : List Name} {s t : Session σ} {tree : CallTree},
      outcome (trace w levels target visited) s = (.ok (tree, seen), t) →
        ∃ expansions, Traced w levels (.enter target) visited s [(target, tree)] expansions seen t)
    (h : outcome (traceSites w levels owner body sites (before, visited)) s =
      (.ok (all, seen), t)) :
    ∃ found expansions, all = before ++ found.map Prod.snd ∧
      Traced w levels (.sites owner body sites) visited s found expansions seen t := by
  induction sites generalizing before visited s with
  | nil =>
      obtain ⟨⟨rfl, rfl⟩, rfl⟩ : (before = all ∧ visited = seen) ∧ s = t := by
        simpa [traceSites] using h
      exact ⟨[], [], by simp, .done levels owner body visited s⟩
  | cons site rest ihr =>
      rw [traceSites_cons] at h
      obtain ⟨answer, u, hr, h⟩ := outcome_bind_ok.mp h
      cases answer with
      | none =>
          obtain ⟨found, expansions, hall, hl⟩ := ihr h
          exact ⟨found, expansions, hall, .drop hr hl⟩
      | some callee =>
          obtain ⟨⟨child, mid⟩, v, hc, h⟩ := outcome_bind_ok.mp h
          obtain ⟨inner, hc⟩ := ih hc
          obtain ⟨found, expansions, hall, hl⟩ := ihr h
          exact ⟨_, _, by simp [hall], .call hr hc hl⟩

theorem traced_of_trace {tree : CallTree}
    (h : outcome (trace w levels target visited) s = (.ok (tree, seen), t)) :
    ∃ expansions, Traced w levels (.enter target) visited s [(target, tree)] expansions seen t := by
  induction levels generalizing target visited s seen t tree with
  | zero =>
      obtain ⟨⟨rfl, rfl⟩, rfl⟩ : (.leaf target.name = tree ∧ visited = seen) ∧ s = t := by
        simpa [trace] using h
      exact ⟨[], .cut target visited s⟩
  | succ levels ih =>
      rw [trace_succ] at h
      by_cases hv : target.name ∈ visited
      · rw [if_pos hv] at h
        obtain ⟨⟨rfl, rfl⟩, rfl⟩ : (.leaf target.name = tree ∧ visited = seen) ∧ s = t := by
          simpa using h
        exact ⟨[], .known s hv⟩
      · rw [if_neg hv] at h
        obtain ⟨body, u, hb, h⟩ := outcome_bind_ok.mp h
        obtain ⟨⟨children, last⟩, v, hsites, h⟩ := outcome_bind_ok.mp h
        obtain ⟨⟨rfl, rfl⟩, rfl⟩ : (.node target.name children = tree ∧ last = seen) ∧ v = t := by
          simpa using h
        obtain ⟨found, expansions, hchildren, hs⟩ := traced_of_traceSites ih hsites
        obtain rfl : children = found.map Prod.snd := by simpa using hchildren
        exact ⟨_, .expand hv hb hs⟩

variable (w) in
def Task.Done (levels : Nat) (visited : List Name) (s : Session σ)
    (found : List (CallTarget × CallTree)) (seen : List Name) (t : Session σ) : Task → Prop
  | .enter target => ∀ tree, found = [(target, tree)] →
      outcome (trace w levels target visited) s = (.ok (tree, seen), t)
  | .sites owner body rest => ∀ before,
      outcome (traceSites w levels owner body rest (before, visited)) s =
        (.ok (before ++ found.map Prod.snd, seen), t)

theorem Traced.done_task {task : Task}
    (h : Traced w levels task visited s found expansions seen t) :
    task.Done w levels visited s found seen t := by
  induction h with
  | cut target visited s =>
      intro tree htree
      obtain rfl : .leaf target.name = tree := by simpa using htree
      rfl
  | @known levels target visited s hv =>
      intro tree htree
      obtain rfl : .leaf target.name = tree := by simpa using htree
      rw [trace_succ, if_pos hv, outcome_pure]
  | @expand levels target visited seen s t u body found expansions hv hb _ ih =>
      intro tree htree
      obtain rfl : .node target.name (found.map Prod.snd) = tree := by simpa using htree
      rw [trace_succ, if_neg hv, outcome_bind_ok]
      refine ⟨body, t, hb, outcome_bind_ok.mpr ⟨_, u, ih [], ?_⟩⟩
      simp
  | done levels owner body visited s =>
      intro before
      simp [traceSites]
  | drop hr _ ih =>
      intro before
      rw [traceSites_cons, outcome_bind_ok]
      exact ⟨none, _, hr, ih before⟩
  | @call levels owner callee body site rest visited mid seen s t u v first found inner expansions
      hr hc hl ihc ihl =>
      intro before
      obtain ⟨children, rfl⟩ := hc.enter_found
      rw [traceSites_cons, outcome_bind_ok]
      refine ⟨some callee, t, hr, outcome_bind_ok.mpr ⟨_, u, ihc _ rfl, ?_⟩⟩
      have hlater := ihl (before ++ [.node callee.name children])
      rwa [List.append_assoc] at hlater

theorem trace_ok_iff {tree : CallTree} :
    outcome (trace w levels target visited) s = (.ok (tree, seen), t) ↔
      ∃ expansions, Traced w levels (.enter target) visited s [(target, tree)] expansions seen t :=
  ⟨traced_of_trace, fun ⟨_, h⟩ => h.done_task tree rfl⟩

end CodeAtlas.CallTrace
