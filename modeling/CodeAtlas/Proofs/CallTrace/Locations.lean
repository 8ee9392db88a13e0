import CodeAtlas.Proofs.CallTrace.Determined
import CodeAtlas.Proofs.CallTrace.Limits
import CodeAtlas.Proofs.Client.Agreement

namespace CodeAtlas

namespace Client

variable {σ : Type} (w : World σ) {s t : Session σ}

/-- The places that a server names for the function called at a place. -/
def placesAt (uri : String) (p : Position) (state : σ) : Except Failure (List Location) := do
  let reply ← absorbed
    (w.request implementationMethod (.object (placeParams (.text uri) p)) state).result
  locationsIn (entries reply)

theorem implementations_ok {uri : String} {p : Position} {places : List Location}
    (h : outcome (implementations w (.text uri) p) s = (.ok places, t)) :
    placesAt w uri p s.world = .ok places := by
  obtain ⟨_, u, hrequire, hrest⟩ := outcome_bind_ok.mp h
  obtain rfl : u = s := by simpa [hrequire] using session_require w [implementationCapability] s
  obtain ⟨reply, v, hquery, hrest⟩ := outcome_bind_ok.mp hrest
  obtain ⟨found, x, hfound, hrest⟩ := outcome_bind_ok.mp hrest
  simp only [outcome_attempt, Prod.mk.injEq] at hfound
  obtain rfl : found.filterMap id = places := by simpa using congrArg Prod.fst hrest
  have hresult := (query_result (w := w) implementationMethod
    (.object (placeParams (.text uri) p)) u).1
  rw [hquery] at hresult
  cases hrunning : w.isRunning u.world with
  | false => simp [hrunning] at hresult
  | true =>
      simp only [hrunning, if_true] at hresult
      rw [placesAt, ← hresult]
      exact congrArg (Except.map fun found => found.filterMap id) hfound.1

theorem readText_result (hs : Faithful w s) (uri : String) (range : Option Range) :
    (outcome (readText w uri range) s).1 =
      (fileText w s.world uri).bind fun whole =>
        (Document.slice whole.toList range).map String.ofList := by
  have htext := text_result hs uri
  rw [readText, outcome_bind]
  rcases hx : outcome (text w uri) s with ⟨r, u⟩
  rw [hx] at htext
  rw [← htext]
  cases r with
  | error e => rfl
  | ok whole =>
      simp only [outcome_bind, outcome_attempt, Except.bind]
      cases Document.slice whole.toList range <;> rfl

/-- Two servers beside the same files, whose states may be of any kind. -/
def SameFiles {σ τ : Type} (w : World σ) (v : World τ) : Prop :=
  ∀ path a b, (w.readFile path a).1 = (v.readFile path b).1

theorem SameFiles.readText {τ : Type} {w : World σ} {v : World τ} (h : SameFiles w v)
    {t : Session τ} (hs : Faithful w s) (ht : Faithful v t) (uri : String) (range : Option Range) :
    (outcome (readText w uri range) s).1 = (outcome (readText v uri range) t).1 := by
  rw [readText_result w hs, readText_result v ht, fileText, fileText]
  simp only [h _ s.world t.world]

end Client

namespace CallTrace

open Client

variable {σ τ : Type} (w : World σ)

/-- A place was taken for a function, or for none, at some time. -/
def TakenFor (l : Location) (found : Option CallTarget) : Prop :=
  ∃ s t, Faithful w s ∧ outcome (targetFor w l) s = (.ok found, t)

/-- A place that is never taken for a function: its document cannot be opened,
or no function is there. -/
def Dead (l : Location) : Prop := ∀ callee, ¬ TakenFor w l (some callee)

/-- The function that the first live place lies in. -/
inductive Wins : List Location → Option CallTarget → Prop
  | nowhere : Wins [] none
  | here {l : Location} {rest : List Location} {callee : CallTarget}
      (h : TakenFor w l (some callee)) : Wins (l :: rest) (some callee)
  | later {l : Location} {rest : List Location} {found : Option CallTarget} (hd : Dead w l)
      (hr : Wins rest found) : Wins (l :: rest) found

/-- Lists of places that are the same but for dead ones, and for what stands
behind the first live one. -/
inductive Litters : List Location → List Location → Prop
  | nil : Litters [] []
  | keep {xs ys : List Location} (l : Location) (h : Litters xs ys) : Litters (l :: xs) (l :: ys)
  | insert {xs ys : List Location} {l : Location} (hd : Dead w l) (h : Litters xs ys) :
      Litters xs (l :: ys)
  | remove {xs ys : List Location} {l : Location} (hd : Dead w l) (h : Litters xs ys) :
      Litters (l :: xs) ys
  | behind {l : Location} {callee : CallTarget} (h : TakenFor w l (some callee))
      (xs ys : List Location) : Litters (l :: xs) (l :: ys)

variable {w} {s t : Session σ} {l : Location} {here there : List Location}
  {found found' : Option CallTarget}

theorem TakenFor.unique (hw : Steady w) (h : TakenFor w l found) (h' : TakenFor w l found') :
    found = found' := by
  obtain ⟨s, t, hs, ht⟩ := h
  obtain ⟨s', t', hs', ht'⟩ := h'
  exact (repeats_targetFor hw l).unique hs hs' ht ht'

theorem TakenFor.dead (hw : Steady w) (h : TakenFor w l none) : Dead w l :=
  fun callee hc => by cases h.unique hw hc

theorem Wins.unique (hw : Steady w) (h : Wins w here found) (h' : Wins w here found') :
    found = found' := by
  induction h with
  | nowhere =>
      cases h'
      rfl
  | here h =>
      cases h' with
      | here h' => exact h.unique hw h'
      | later hd => exact absurd h (hd _)
  | later hd _ ih =>
      cases h' with
      | here h' => exact absurd h' (hd _)
      | later _ hr' => exact ih hr'

theorem Wins.of_takenFor {v : World σ} (h : ∀ l found, TakenFor w l found ↔ TakenFor v l found)
    (hw : Wins w here found) : Wins v here found := by
  induction hw with
  | nowhere => exact .nowhere
  | here hl => exact .here ((h _ _).mp hl)
  | later hd _ ih => exact .later (fun callee hc => hd callee ((h _ _).mpr hc)) ih

theorem wins_of_firstTarget (hw : Steady w) (hs : Faithful w s)
    (h : outcome (firstTarget w here) s = (.ok found, t)) : Wins w here found := by
  induction here generalizing s with
  | nil =>
      obtain rfl : none = found := by simpa [firstTarget] using congrArg Prod.fst h
      exact .nowhere
  | cons l rest ih =>
      obtain ⟨first, u, hfirst, h⟩ := outcome_bind_ok.mp h
      have htaken : TakenFor w l first := ⟨s, u, hs, hfirst⟩
      cases first with
      | some callee =>
          obtain rfl : some callee = found := by simpa using congrArg Prod.fst h
          exact .here htaken
      | none =>
          exact .later (htaken.dead hw) (ih ((repeats_targetFor hw l).kept hs hfirst) h)

theorem Litters.wins_iff (h : Litters w here there) (found : Option CallTarget) :
    Wins w here found ↔ Wins w there found := by
  induction h with
  | nil => rfl
  | keep l _ ih =>
      constructor
      · rintro (_ | hc | ⟨hd, hr⟩)
        · exact .here hc
        · exact .later hd (ih.mp hr)
      · rintro (_ | hc | ⟨hd, hr⟩)
        · exact .here hc
        · exact .later hd (ih.mpr hr)
  | insert hd _ ih =>
      refine ih.trans ⟨.later hd, ?_⟩
      rintro (_ | hc | ⟨-, hr⟩)
      · exact absurd hc (hd _)
      · exact hr
  | remove hd _ ih =>
      refine Iff.trans ⟨?_, .later hd⟩ ih
      rintro (_ | hc | ⟨-, hr⟩)
      · exact absurd hc (hd _)
      · exact hr
  | behind hl xs ys =>
      constructor
      · rintro (_ | hc | ⟨hd, -⟩)
        · exact .here hc
        · exact absurd hl (hd _)
      · rintro (_ | hc | ⟨hd, -⟩)
        · exact .here hc
        · exact absurd hl (hd _)

theorem resolve_wins (hw : Steady w) (hs : Faithful w s) {owner : CallTarget} {p : Position}
    {site : CallSite} (h : outcome (resolve w owner p site) s = (.ok found, t)) :
    ∃ places, placesAt w owner.uri p s.world = .ok places ∧ Wins w places found := by
  obtain ⟨places, u, hplaces, h⟩ := outcome_bind_ok.mp h
  refine ⟨places, implementations_ok w hplaces, ?_⟩
  have hu : Faithful w u := (repeats_implementations hw _ _).kept hs hplaces
  cases places with
  | nil =>
      simp only [List.isEmpty_nil, if_true, outcome_bind, outcome_note, outcome_pure,
        Prod.mk.injEq, Except.ok.injEq] at h
      obtain ⟨rfl, -⟩ := h
      exact .nowhere
  | cons l rest =>
      simp only [List.isEmpty_cons, Bool.false_eq_true, if_false] at h
      obtain ⟨first, v, hfirst, h⟩ := outcome_bind_ok.mp h
      have hwins := wins_of_firstTarget hw hu hfirst
      cases first with
      | some callee =>
          obtain rfl : some callee = found := by simpa using congrArg Prod.fst h
          exact hwins
      | none =>
          simp only [outcome_bind, outcome_note, outcome_pure, Prod.mk.injEq,
            Except.ok.injEq] at h
          obtain ⟨rfl, -⟩ := h
          exact hwins

variable (w) (v : World τ)

/-- Of the places that both name for a call site, the first live ones lie in
the same function, or none is live in either. -/
def SameTargets : Prop :=
  ∀ uri p a b here there, placesAt w uri p a = .ok here → placesAt v uri p b = .ok there →
    ∀ found, Wins w here found ↔ Wins v there found

/-- Where a trace returns beside both, it returns the same. -/
def SameTraces : Prop :=
  ∀ limit depth target visited s s' t t' tree tree' seen seen', Faithful w s → Faithful v s' →
    outcome (trace w (levelsLeft limit depth) target visited) s = (.ok (tree, seen), t) →
      outcome (trace v (levelsLeft limit depth) target visited) s' = (.ok (tree', seen'), t') →
        tree = tree' ∧ seen = seen'

variable {w v} {s' t' : Session τ} {owner : CallTarget} {body : List Char}
  {callees callees' : List CallTarget}

theorem SameTargets.resolve (h : SameTargets w v) (hw : Steady w) (hv : Steady v)
    (hs : Faithful w s) (hs' : Faithful v s') {p : Position} {site : CallSite}
    (hr : outcome (resolve w owner p site) s = (.ok found, t))
    (hr' : outcome (resolve v owner p site) s' = (.ok found', t')) : found = found' := by
  obtain ⟨here, hhere, hwins⟩ := resolve_wins hw hs hr
  obtain ⟨there, hthere, hwins'⟩ := resolve_wins hv hs' hr'
  exact ((h _ _ _ _ _ _ hhere hthere found).mp hwins).unique hv hwins'

theorem SameTargets.leadTo (h : SameTargets w v) (hw : Steady w) (hv : Steady v)
    {sites : List CallSite} (hl : LeadTo w owner body sites callees)
    (hl' : LeadTo v owner body sites callees') : callees = callees' := by
  induction hl generalizing callees' with
  | done =>
      cases hl'
      rfl
  | drop hs hr _ ih =>
      cases hl' with
      | drop _ _ hrest => exact ih hrest
      | call hs' hr' => cases h.resolve hw hv hs hs' hr hr'
  | call hs hr _ ih =>
      cases hl' with
      | drop hs' hr' => cases h.resolve hw hv hs hs' hr hr'
      | call hs' hr' hrest =>
          cases h.resolve hw hv hs hs' hr hr'
          rw [ih hrest]

theorem SameTargets.makes (h : SameTargets w v) (hfiles : SameFiles w v) (hw : Steady w)
    (hv : Steady v) {target : CallTarget} (hm : Makes w target callees)
    (hm' : Makes v target callees') : callees = callees' := by
  obtain ⟨s, t, body, hs, hb, hl⟩ := hm
  obtain ⟨s', t', body', hs', hb', hl'⟩ := hm'
  have hread := hfiles.readText hs hs' target.uri (some target.range)
  rw [hb, hb'] at hread
  obtain rfl := Except.ok.inj hread
  exact h.leadTo hw hv hl hl'

theorem SameTargets.sameTraces (h : SameTargets w v) (hfiles : SameFiles w v) (hw : Steady w)
    (hv : Steady v) : SameTraces w v := by
  intro limit depth target visited s s' t t' tree tree' seen seen' hs hs' htrace htrace'
  obtain ⟨expansions, hd⟩ := trace_ok_iff.mp htrace
  obtain ⟨expansions', hd'⟩ := trace_ok_iff.mp htrace'
  obtain ⟨hfound, hseen⟩ := hd.determined hd' rfl rfl fun e he e' he' hsame =>
    h.makes hfiles hw hv ((hd.makes hw hs).2 e he) (hsame ▸ (hd'.makes hv hs').2 e' he')
  exact ⟨by simpa using hfound, hseen⟩

structure OnlyPlaces (w v : World σ) : Prop where
  isRunning : w.isRunning = v.isRunning
  capabilities : w.capabilities = v.capabilities
  request : ∀ method, method ≠ implementationMethod → w.request method = v.request method
  notify : w.notify = v.notify
  readFile : w.readFile = v.readFile

namespace OnlyPlaces

variable {v : World σ} (h : OnlyPlaces w v)
include h

theorem targetFor (l : Location) : targetFor w l = targetFor v l := by
  have hrequest := h.request outlineMethod (by decide)
  have hrequire : require w [outlineCapability] = require v [outlineCapability] := by
    simp only [require, supports, connected, h.isRunning, h.capabilities]
  have houtline (uri : Json) : outline w uri = outline v uri := by
    simp only [outline, hrequire, query, exchange, connected, h.isRunning, hrequest]
  have hopen (uri : String) : ensureOpen w uri = ensureOpen v uri := by
    simp only [ensureOpen, text, connected, h.isRunning, h.notify, h.readFile]
  simp only [CallTrace.targetFor, openAt, openDocument, houtline, hopen]

theorem faithful_iff : Faithful w s ↔ Faithful v s := by
  simp only [Faithful, opening, fileText, h.notify, h.readFile]

theorem takenFor_iff : TakenFor w l found ↔ TakenFor v l found := by
  simp only [TakenFor, h.faithful_iff, h.targetFor]

theorem wins_iff : Wins w here found ↔ Wins v here found :=
  ⟨.of_takenFor fun _ _ => h.takenFor_iff, .of_takenFor fun _ _ => h.takenFor_iff.symm⟩

theorem sameTargets (hl : ∀ uri p a b here there, placesAt w uri p a = .ok here →
    placesAt v uri p b = .ok there → Litters w here there) : SameTargets w v := by
  intro uri p a b here there hhere hthere found
  exact ((hl uri p a b here there hhere hthere).wins_iff found).trans h.wins_iff

theorem sameFiles (hw : Steady w) : SameFiles w v := fun path a b => by
  rw [← h.readFile, hw.readFile path a b]

end OnlyPlaces

variable (w owner body) in
def Unresolved (site : CallSite) : Prop :=
  ∀ s t callee, Faithful w s →
    outcome (resolve w owner (placeOf owner body site.offset) site) s ≠ (.ok (some callee), t)

theorem unresolved_of_none (hw : Steady w) {site : CallSite} (hs : Faithful w s)
    (h : outcome (resolve w owner (placeOf owner body site.offset) site) s = (.ok none, t)) :
    Unresolved w owner body site := by
  intro s' t' callee hs' h'
  cases (repeats_resolve hw _ _ _).unique hs hs' h h'

theorem LeadTo.without {site : CallSite} (hu : Unresolved w owner body site)
    {before after : List CallSite} (h : LeadTo w owner body (before ++ site :: after) callees) :
    LeadTo w owner body (before ++ after) callees := by
  induction before generalizing callees with
  | nil =>
      cases h with
      | drop _ _ hl => exact hl
      | call hs hr => exact absurd hr (hu _ _ _ hs)
  | cons first rest ih =>
      cases h with
      | drop hs hr hl => exact .drop hs hr (ih hl)
      | call hs hr hl => exact .call hs hr (ih hl)

theorem traceSites_without (hw : Steady w) {site : CallSite} (hu : Unresolved w owner body site)
    {before after : List CallSite} {levels : Nat} {visited seen seen' : List Name}
    {trees all all' : List CallTree} {s' t' : Session σ} (hs : Faithful w s) (hs' : Faithful w s')
    (h : outcome (traceSites w levels owner body (before ++ site :: after) (trees, visited)) s =
      (.ok (all, seen), t))
    (h' : outcome (traceSites w levels owner body (before ++ after) (trees, visited)) s' =
      (.ok (all', seen'), t')) : all = all' ∧ seen = seen' := by
  obtain ⟨found, expansions, rfl, hd⟩ := traced_of_traceSites traced_of_trace h
  obtain ⟨found', expansions', rfl, hd'⟩ := traced_of_traceSites traced_of_trace h'
  obtain ⟨hled, hmakes⟩ := hd.makes hw hs
  obtain ⟨hled', hmakes'⟩ := hd'.makes hw hs'
  obtain ⟨rfl, hseen⟩ := hd.determined hd' rfl (LeadTo.unique hw (LeadTo.without hu hled) hled')
    fun e he e' he' hsame => (hmakes e he).unique hw (hsame ▸ hmakes' e' he')
  exact ⟨rfl, hseen⟩

/-- Beside servers whose replies depend on the request alone, a trace sees of
the places of a call site only the function that the first live one lies in.
Dead places may come and go, and whatever stands behind the first live one, and
a site that leads nowhere takes no part in what the other sites give. -/
theorem trace_sameTargets (hw : Steady w) :
    (∀ v : World τ, Steady v → SameFiles w v → SameTargets w v → SameTraces w v) ∧
    (∀ v : World σ, Steady v → OnlyPlaces w v →
      (∀ uri p a b here there, placesAt w uri p a = .ok here → placesAt v uri p b = .ok there →
        Litters w here there) → SameTraces w v) ∧
    ∀ levels owner body site, Unresolved w owner body site →
      ∀ before after trees visited s s' t t' all all' seen seen', Faithful w s → Faithful w s' →
        outcome (traceSites w levels owner body (before ++ site :: after) (trees, visited)) s =
            (.ok (all, seen), t) →
          outcome (traceSites w levels owner body (before ++ after) (trees, visited)) s' =
              (.ok (all', seen'), t') →
            all = all' ∧ seen = seen' := by
  refine ⟨fun v hv hfiles h => h.sameTraces hfiles hw hv, fun v hv h hl => ?_, ?_⟩
  · exact (h.sameTargets hl).sameTraces (h.sameFiles hw) hw hv
  · intro levels owner body site hu before after trees visited s s' t t' all all' seen seen' hs hs'
    exact traceSites_without hw hu hs hs'

theorem Litters.concat {l : Location} (hd : Dead w l) (places : List Location) :
    Litters w places (places ++ [l]) := by
  induction places with
  | nil => exact .insert hd .nil
  | cons first rest ih => exact .keep first ih

theorem locationsIn_append (xs ys : List Json) :
    locationsIn (xs ++ ys) = do
      let first ← locationsIn xs
      let rest ← locationsIn ys
      return first ++ rest := by
  induction xs with
  | nil =>
      change locationsIn ys = do
        let rest ← locationsIn ys
        return [] ++ rest
      cases locationsIn ys <;> rfl
  | cons x xs ih =>
      rw [List.cons_append, locationsIn_cons, locationsIn_cons, ih]
      cases Location.ofJson? x with
      | error e => rfl
      | ok place =>
          cases locationsIn xs with
          | error e => rfl
          | ok first =>
              cases locationsIn ys with
              | error e => rfl
              | ok rest => exact congrArg Except.ok (List.append_assoc _ _ _).symm

namespace Script

def gap : Script := [('r', ['q', 'a']), ('a', [])]

def gapBody : List Char := "r q() a()".toList

def elsewhere : Location := ⟨.text "http://m", .origin⟩

def littered (script : Script) : World Unit :=
  { script.world with
    request := fun method params state =>
      if method = implementationMethod then
        ⟨.ok (.list (elsewhere.toJson :: entries (script.implementation params)
          ++ [elsewhere.toJson])), [], ()⟩
      else script.world.request method params state }

theorem steady_littered (script : Script) : Steady script.littered :=
  ⟨fun _ _ _ _ => rfl, fun _ _ _ _ => rfl, fun _ _ _ => rfl⟩

theorem onlyPlaces_littered (script : Script) : OnlyPlaces script.world script.littered where
  isRunning := rfl
  capabilities := rfl
  request method hm := by
    funext params state
    exact (if_neg hm).symm
  notify := rfl
  readFile := rfl

theorem litters_littered {script : Script} (hd : Dead script.world elsewhere) (uri : String)
    (p : Position) (a b : Unit) (here there : List Location)
    (h : placesAt script.world uri p a = .ok here)
    (h' : placesAt script.littered uri p b = .ok there) : Litters script.world here there := by
  have hread : locationsIn [elsewhere.toJson] = .ok [elsewhere] := rfl
  have hhere : locationsIn (entries (script.implementation
      (.object (placeParams (.text uri) p)))) = .ok here := h
  have hthere : locationsIn (elsewhere.toJson :: entries (script.implementation
      (.object (placeParams (.text uri) p))) ++ [elsewhere.toJson]) = .ok there := h'
  rw [locationsIn_append, locationsIn_cons, hhere, hread] at hthere
  obtain rfl : elsewhere :: here ++ [elsewhere] = there := Except.ok.inj hthere
  exact (Litters.concat hd here).insert hd

end Script

open Script

theorem trace_sameTargets_gap : SameTraces gap.world gap.littered ∧
    (∃ tree seen t tree' seen' t',
      outcome (trace gap.world (levelsLeft 5 0) gap.root []) (.start ()) =
        (.ok (tree, seen), t) ∧
      outcome (trace gap.littered (levelsLeft 5 0) gap.root []) (.start ()) =
        (.ok (tree', seen'), t') ∧
      tree.names = (["m.r", "m.a"] : List Name) ∧ tree = tree' ∧ seen = seen') ∧
    ∃ all seen t all' seen' t',
      outcome (traceSites gap.world 4 gap.root gapBody ([] ++ ⟨"q", 2⟩ :: [⟨"a", 6⟩])
        ([], ["m.r"])) (.start ()) = (.ok (all, seen), t) ∧
      outcome (traceSites gap.world 4 gap.root gapBody ([] ++ [⟨"a", 6⟩]) ([], ["m.r"]))
        (.start ()) = (.ok (all', seen'), t') ∧
      all.map CallTree.name = (["m.a"] : List Name) ∧ all = all' ∧ seen = seen' := by
  have hstart : Faithful gap.world (.start ()) := faithful_start ()
  obtain ⟨found, t, htaken, rfl⟩ : ∃ found t,
      outcome (targetFor gap.world elsewhere) (.start ()) = (.ok found, t) ∧ found = none :=
    exists_result (by decide +kernel)
  have hdead : Dead gap.world elsewhere := TakenFor.dead gap.steady ⟨_, t, hstart, htaken⟩
  have honly := onlyPlaces_littered gap
  have hlitters := litters_littered hdead
  obtain ⟨hservers, hplaces, hsites⟩ := trace_sameTargets (τ := Unit) gap.steady
  refine ⟨hservers _ (steady_littered gap) (honly.sameFiles gap.steady)
    (honly.sameTargets hlitters), ?_, ?_⟩
  · obtain ⟨tree, seen, t, h, hnames⟩ : ∃ tree seen t,
        outcome (trace gap.world (levelsLeft 5 0) gap.root []) (.start ()) =
          (.ok (tree, seen), t) ∧ tree.names = (["m.r", "m.a"] : List Name) :=
      exists_tree (by decide +kernel)
    obtain ⟨tree', seen', t', h', -⟩ : ∃ tree seen t,
        outcome (trace gap.littered (levelsLeft 5 0) gap.root []) (.start ()) =
          (.ok (tree, seen), t) ∧ tree.names = (["m.r", "m.a"] : List Name) :=
      exists_tree (by decide +kernel)
    have hsame := hplaces _ (steady_littered gap) honly hlitters _ _ _ _ _ _ _ _ _ _ _ _ hstart
      (faithful_start ()) h h'
    exact ⟨tree, seen, t, tree', seen', t', h, h', hnames, hsame⟩
  · obtain ⟨found, u, hresolve, rfl⟩ : ∃ found u,
        outcome (resolve gap.world gap.root (placeOf gap.root gapBody 2) ⟨"q", 2⟩) (.start ()) =
          (.ok found, u) ∧ found = none :=
      exists_result (by decide +kernel)
    have hu : Unresolved gap.world gap.root gapBody ⟨"q", 2⟩ :=
      unresolved_of_none gap.steady hstart hresolve
    obtain ⟨⟨all, seen⟩, t, h, hnames⟩ : ∃ found t,
        outcome (traceSites gap.world 4 gap.root gapBody ([] ++ ⟨"q", 2⟩ :: [⟨"a", 6⟩])
          ([], ["m.r"])) (.start ()) = (.ok found, t) ∧
        found.1.map CallTree.name = (["m.a"] : List Name) :=
      exists_result (by decide +kernel)
    obtain ⟨⟨all', seen'⟩, t', h', -⟩ : ∃ found t,
        outcome (traceSites gap.world 4 gap.root gapBody ([] ++ [⟨"a", 6⟩]) ([], ["m.r"]))
          (.start ()) = (.ok found, t) ∧ found.1.map CallTree.name = (["m.a"] : List Name) :=
      exists_result (by decide +kernel)
    have hsame := hsites _ _ _ _ hu _ _ _ _ _ _ _ _ _ _ _ _ hstart hstart h h'
    exact ⟨all, seen, t, all', seen', t', h, h', hnames, hsame⟩

end CallTrace

end CodeAtlas
