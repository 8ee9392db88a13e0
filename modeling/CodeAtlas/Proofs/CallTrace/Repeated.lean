import CodeAtlas.Proofs.CallTrace.Runs
import CodeAtlas.Proofs.Client.Repeated

namespace CodeAtlas.CallTrace

open Client Document

variable {σ : Type} {w : World σ}

theorem repeats_openAt (hw : Steady w) (l : Location) : Repeats w (openAt w l) := by
  have hopen : Repeats w (do
      let uri ← attempt (addressText l.uri)
      return some (← openDocument w uri)) :=
    (repeats_attempt _).bind fun uri => (repeats_openDocument hw uri).bind fun _ => repeats_pure _
  refine hopen.recover (fun e => ?_) fun e hfile hrefusal => ?_
  · cases e.isFile || e.isRefusal
    · exact repeats_throw e
    · exact (repeats_note _ _ _).bind fun _ => repeats_pure _
  · simp [hfile, hrefusal]

theorem repeats_targetFor (hw : Steady w) (l : Location) : Repeats w (targetFor w l) := by
  refine (repeats_openAt hw l).bind fun found => ?_
  cases found with
  | none => exact repeats_pure _
  | some document =>
      simp only
      cases Symbol.enclosing? document.symbols l.range with
      | none => exact repeats_pure _
      | some entry => exact (repeats_attempt _).bind fun _ => repeats_pure _

theorem repeats_firstTarget (hw : Steady w) (locations : List Location) :
    Repeats w (firstTarget w locations) := by
  induction locations with
  | nil => exact repeats_pure _
  | cons l rest ih =>
      refine (repeats_targetFor hw l).bind fun found => ?_
      cases found with
      | none => exact ih
      | some target => exact repeats_pure _

theorem repeats_resolve (hw : Steady w) (target : CallTarget) (p : Position) (site : CallSite) :
    Repeats w (resolve w target p site) := by
  refine (repeats_implementations hw _ p).bind fun locations => ?_
  cases locations.isEmpty with
  | true => exact (repeats_note _ _ _).bind fun _ => repeats_pure _
  | false =>
      refine (repeats_firstTarget hw locations).bind fun found => ?_
      cases found with
      | none => exact (repeats_note _ _ _).bind fun _ => repeats_pure _
      | some callee => exact repeats_pure _

variable (w) in
/-- Sites led to functions, each at some time when it was asked about. -/
inductive LeadTo (owner : CallTarget) (body : List Char) : List CallSite → List CallTarget → Prop
  | done : LeadTo owner body [] []
  | drop {site : CallSite} {rest : List CallSite} {callees : List CallTarget} {s t : Session σ}
      (hs : Faithful w s)
      (hr : outcome (resolve w owner (placeOf owner body site.offset) site) s = (.ok none, t))
      (hl : LeadTo owner body rest callees) : LeadTo owner body (site :: rest) callees
  | call {site : CallSite} {rest : List CallSite} {callee : CallTarget}
      {callees : List CallTarget} {s t : Session σ} (hs : Faithful w s)
      (hr : outcome (resolve w owner (placeOf owner body site.offset) site) s =
        (.ok (some callee), t))
      (hl : LeadTo owner body rest callees) : LeadTo owner body (site :: rest) (callee :: callees)

variable (w) in
def Makes (target : CallTarget) (callees : List CallTarget) : Prop :=
  ∃ s t body, Faithful w s ∧
    outcome (readText w target.uri (some target.range)) s = (.ok body, t) ∧
      LeadTo w target body.toList (sitesOf target body.toList) callees

theorem LeadTo.unique (hw : Steady w) {owner : CallTarget} {body : List Char}
    {sites : List CallSite} {callees callees' : List CallTarget}
    (h : LeadTo w owner body sites callees) (h' : LeadTo w owner body sites callees') :
    callees = callees' := by
  induction h generalizing callees' with
  | done =>
      cases h'
      rfl
  | drop hs hr _ ih =>
      cases h' with
      | drop hs' hr' hl' => exact ih hl'
      | call hs' hr' hl' => cases (repeats_resolve hw _ _ _).unique hs hs' hr hr'
  | call hs hr _ ih =>
      cases h' with
      | drop hs' hr' hl' => cases (repeats_resolve hw _ _ _).unique hs hs' hr hr'
      | call hs' hr' hl' =>
          cases (repeats_resolve hw _ _ _).unique hs hs' hr hr'
          rw [ih hl']

theorem Makes.unique (hw : Steady w) {target : CallTarget} {callees callees' : List CallTarget}
    (h : Makes w target callees) (h' : Makes w target callees') : callees = callees' := by
  obtain ⟨s, t, body, hs, hb, hl⟩ := h
  obtain ⟨s', t', body', hs', hb', hl'⟩ := h'
  obtain rfl : body = body' := (repeats_readText hw _ _).unique hs hs' hb hb'
  exact hl.unique hw hl'

variable {levels : Nat} {task : Task} {visited seen : List Name} {s t : Session σ}
  {found : List (CallTarget × CallTree)} {expansions : List Expansion}

theorem Traced.faithful (hw : Steady w)
    (h : Traced w levels task visited s found expansions seen t) (hs : Faithful w s) :
    Faithful w t := by
  induction h with
  | cut | known | done => exact hs
  | expand _ hb _ ih => exact ih ((repeats_readText hw _ _).kept hs hb)
  | drop hr _ ih => exact ih ((repeats_resolve hw _ _ _).kept hs hr)
  | call hr _ _ ihc ihl => exact ihl (ihc ((repeats_resolve hw _ _ _).kept hs hr))

def Task.Led (w : World σ) (callees : List CallTarget) : Task → Prop
  | .enter target => callees = [target]
  | .sites owner body rest => LeadTo w owner body rest callees

theorem Traced.makes (hw : Steady w)
    (h : Traced w levels task visited s found expansions seen t) (hs : Faithful w s) :
    task.Led w (found.map Prod.fst) ∧ ∀ e ∈ expansions, Makes w e.target e.callees := by
  induction h with
  | cut | known => exact ⟨rfl, by simp⟩
  | expand _ hb _ ih =>
      obtain ⟨hled, hmakes⟩ := ih ((repeats_readText hw _ _).kept hs hb)
      exact ⟨rfl, List.forall_mem_cons.mpr ⟨⟨_, _, _, hs, hb, hled⟩, hmakes⟩⟩
  | done => exact ⟨.done, by simp⟩
  | drop hr _ ih =>
      obtain ⟨hled, hmakes⟩ := ih ((repeats_resolve hw _ _ _).kept hs hr)
      exact ⟨.drop hs hr hled, hmakes⟩
  | call hr hc _ ihc ihl =>
      have ht := (repeats_resolve hw _ _ _).kept hs hr
      obtain ⟨hcallee, hinner⟩ := ihc ht
      obtain ⟨hled, hlater⟩ := ihl (hc.faithful hw ht)
      refine ⟨?_, List.forall_mem_append.mpr ⟨hinner, hlater⟩⟩
      rw [List.map_append, hcallee]
      exact .call hs hr hled

end CodeAtlas.CallTrace
