import CodeAtlas.Proofs.CallTrace.Flattened
import CodeAtlas.Proofs.Wire.Calm

namespace CodeAtlas.CallTrace

open Client Document

open Wire (Behaviour Connection Online)

variable {σ : Type} {I : σ → Prop} {w : World σ} {s t u v : Session σ} {target callee : CallTarget}

def unopened (l : Location) (e : Failure) (s : Session σ) : Session σ :=
  { s with log := s.log ++ [⟨.debug, .calls, unopenedNote l.uri e⟩] }

theorem openAt_unopened {l : Location} {uri : String} {e : Failure}
    (huri : addressText l.uri = .ok uri) (hopen : outcome (openDocument w uri) u = (.error e, v))
    (he : e.isFile = true ∨ e.isRefusal = true) :
    outcome (openAt w l) u = (.ok none, unopened l e v) := by
  simp [openAt, outcome_tryCatch, outcome_map, outcome_bind, outcome_attempt, huri, hopen,
    Except.map, he, unopened]

theorem targetFor_unopened {l : Location} {uri : String} {e : Failure}
    (huri : addressText l.uri = .ok uri) (hopen : outcome (openDocument w uri) u = (.error e, v))
    (he : e.isFile = true ∨ e.isRefusal = true) :
    outcome (targetFor w l) u = (.ok none, unopened l e v) := by
  rw [targetFor, outcome_bind, openAt_unopened huri hopen he]
  rfl

theorem firstTarget_unopened {l : Location} {uri : String} {e : Failure}
    (huri : addressText l.uri = .ok uri) (hopen : outcome (openDocument w uri) u = (.error e, v))
    (he : e.isFile = true ∨ e.isRefusal = true) (rest : List Location) :
    outcome (firstTarget w (l :: rest)) u = outcome (firstTarget w rest) (unopened l e v) := by
  rw [firstTarget, outcome_bind, targetFor_unopened huri hopen he]

variable (w) in
theorem spared_openAt (l : Location) (s : Session σ) : Spared (outcome (openAt w l) s).1 := by
  refine spared_tryCatch fun e t _ => ?_
  split
  · exact spared_ok none
  next h =>
    refine spared_error ?_
    simp at h
    exact h.1

variable (w) in
theorem spared_targetFor (l : Location) (s : Session σ) : Spared (outcome (targetFor w l) s).1 := by
  refine spared_bind (spared_openAt w l s) fun found t _ => ?_
  cases found with
  | none => exact spared_ok none
  | some document =>
      dsimp only
      split
      · exact spared_ok none
      · exact spared_bind (spared_attempt (Symbol.spared_qualifiedName _ _ (spared_stemOfUri _)) t)
          fun _ _ _ => spared_ok _

variable (w) in
theorem spared_firstTarget (locations : List Location) (s : Session σ) :
    Spared (outcome (firstTarget w locations) s).1 := by
  induction locations generalizing s with
  | nil => exact spared_ok none
  | cons l rest ih =>
      refine spared_bind (spared_targetFor w l s) fun found t _ => ?_
      cases found with
      | none => exact ih t
      | some target => exact spared_ok _

theorem spared_resolve (hw : Served I w) (hs : I s.world) (target : CallTarget) (p : Position)
    (site : CallSite) : Spared (outcome (resolve w target p site) s).1 := by
  refine spared_bind (spared_implementations hw hs _ p) fun locations t _ => ?_
  split
  · exact spared_ok none
  · refine spared_bind (spared_firstTarget w locations t) fun found u _ => ?_
    cases found with
    | none => exact spared_ok none
    | some callee => exact spared_ok _

def Opened (s : Session σ) (target : CallTarget) : Prop :=
  ∃ text, s.texts.lookup target.uri = some text

theorem resolve_opened {p : Position} {site : CallSite}
    (h : outcome (resolve w target p site) s = (.ok (some callee), t)) : Opened t callee := by
  obtain ⟨l, u, hfound⟩ := resolve_found w h
  exact targetFor_opened w hfound

theorem spared_readText (ho : Opened s target) :
    Spared (outcome (readText w target.uri (some target.range)) s).1 := by
  obtain ⟨text, hl⟩ := ho
  rw [outcome_readText_known w hl]
  exact (spared_slice _ _).map _

theorem spared_traceSites (hw : Served I w) {levels : Nat}
    (ih : ∀ callee visited (s : Session σ), I s.world → Opened s callee →
      Spared (outcome (trace w levels callee visited) s).1)
    {owner : CallTarget} {body : List Char} (sites : List CallSite)
    (before : List CallTree × List Name) (hs : I s.world) :
    Spared (outcome (traceSites w levels owner body sites before) s).1 := by
  induction sites generalizing before s with
  | nil => exact spared_ok before
  | cons site rest ihr =>
      rw [traceSites_cons]
      refine spared_bind (spared_resolve hw hs _ _ site) fun found t ht => ?_
      have hworld : I t.world := lasts (hw.inTune.resolve _ _ site) hs ht
      cases found with
      | none => exact ihr before hworld
      | some callee =>
          refine spared_bind (ih callee _ t hworld (resolve_opened ht)) fun result u hu => ?_
          exact ihr _ (lasts (hw.inTune.trace _ callee _) hworld hu)

/-- By induction on the levels: each function gone into was just found in a
document that was opened for it. -/
theorem spared_trace (hw : Served I w) (levels : Nat) (target : CallTarget) (visited : List Name)
    (s : Session σ) (hs : I s.world) (ho : Opened s target) :
    Spared (outcome (trace w levels target visited) s).1 := by
  induction levels generalizing target visited s with
  | zero => exact spared_ok _
  | succ levels ih =>
      rw [trace_succ]
      split
      · exact spared_ok _
      · refine spared_bind (spared_readText ho) fun body t hb => ?_
        have hworld : I t.world := lasts (hw.inTune.readText _ _) hs hb
        exact spared_bind (spared_traceSites hw ih _ _ hworld) fun _ _ _ => spared_ok _

/-- The text of a function, cut from the text that is held of its document. The
fallback is for documents that were never opened. -/
def heldText (fallback : CallTarget → Client σ String) (target : CallTarget) : Client σ String := do
  match (← get).texts.lookup target.uri with
  | some text => return String.ofList (← attempt (slice text.toList (some target.range)))
  | none => fallback target

variable (w) in
/-- A trace that comes by the texts of functions in a way of its own. -/
def traceBy (textOf : CallTarget → Client σ String) :
    Nat → CallTarget → List Name → Client σ (CallTree × List Name)
  | 0, target, visited => return (.leaf target.name, visited)
  | levels + 1, target, visited =>
    if target.name ∈ visited then return (.leaf target.name, visited)
    else do
      let body := (← textOf target).toList
      let (children, seen) ←
        (sitesOf target body).foldlM (fun (done : List CallTree × List Name) site => do
        match ← resolve w target (placeOf target body site.offset) site with
        | none => return done
        | some callee => do
          let (child, seen) ← traceBy textOf levels callee done.2
          return (done.1 ++ [child], seen)) ([], visited ++ [target.name])
      return (.node target.name children, seen)

variable (w) in
def traceAtBy (textOf : CallTarget → Client σ String) (maxDepth : Int) (file : String)
    (p : Position) : Client σ (Option CallTree) := do
  match ← rootAt w file p with
  | none => do
    note .info .calls (← attempt (missingNote file p))
    return none
  | some root => do
    let (tree, _) ← traceBy w textOf (levelsLeft maxDepth 0) root []
    return some tree

theorem outcome_heldText (fallback : CallTarget → Client σ String) (ho : Opened s target) :
    outcome (heldText fallback target) s =
      outcome (readText w target.uri (some target.range)) s := by
  obtain ⟨text, hl⟩ := ho
  rw [outcome_readText_known w hl, heldText, outcome_bind, outcome_get]
  simp only [hl, outcome_bind, outcome_attempt]
  cases slice text.toList (some target.range) <;> rfl

theorem outcome_traceBy_held (fallback : CallTarget → Client σ String) (levels : Nat)
    (visited : List Name) (ho : Opened s target) :
    outcome (traceBy w (heldText fallback) levels target visited) s =
      outcome (trace w levels target visited) s := by
  induction levels generalizing target visited s with
  | zero => rfl
  | succ levels ih =>
      rw [traceBy, trace]
      split
      · rfl
      · refine outcome_bind_congr (outcome_heldText fallback ho) fun body t _ => ?_
        refine outcome_bind_congr ?_ fun _ _ _ => rfl
        congr 2
        funext done site
        refine ext_outcome fun u => outcome_bind_congr rfl fun found v hfound => ?_
        cases found with
        | none => rfl
        | some callee =>
            exact outcome_bind_congr (ih done.2 (resolve_opened hfound)) fun _ _ _ => rfl

theorem rootAt_opened {file : String} {p : Position}
    (h : outcome (rootAt w file p) s = (.ok (some target), t)) : Opened t target := by
  obtain ⟨_, _, -, h⟩ := outcome_bind_ok.mp h
  obtain ⟨_, _, -, h⟩ := outcome_bind_ok.mp h
  exact targetFor_opened w h

theorem outcome_traceAtBy_held (fallback : CallTarget → Client σ String) (maxDepth : Int)
    (file : String) (p : Position) (s : Session σ) :
    outcome (traceAtBy w (heldText fallback) maxDepth file p) s =
      outcome (traceAt w maxDepth file p) s := by
  rw [traceAt_eq]
  refine outcome_bind_congr rfl fun found t hroot => ?_
  cases found with
  | none => rfl
  | some root =>
      exact outcome_bind_congr (outcome_traceBy_held fallback _ [] (rootAt_opened hroot))
        fun _ _ _ => rfl

theorem spared_traceAt (hw : Served I w) (hs : I s.world) {file : String} {path : Path}
    (hp : w.absolute (Path.ofString file) = .ok path) (maxDepth : Int) (p : Position) :
    Spared (outcome (traceAt w maxDepth file p) s).1 := by
  rw [traceAt, hp]
  refine spared_bind (spared_require w _ s) fun _ t ht => ?_
  refine spared_bind (spared_ok path) fun _ u hu => ?_
  obtain ⟨-, rfl⟩ : _ ∧ t = u := by simpa using hu
  have hworld : I t.world := lasts (hw.inTune.require _) hs ht
  refine spared_bind (spared_targetFor w _ t) fun found v hv => ?_
  cases found with
  | none =>
      refine spared_bind (spared_attempt ((spared_toText p).map _) v) fun _ _ _ => ?_
      exact spared_ok none
  | some root =>
      have hroot : I v.world := lasts (hw.inTune.targetFor _) hworld hv
      exact spared_bind (spared_trace hw _ root [] v hroot (targetFor_opened w hv))
        fun _ _ _ => spared_ok _

/-- Whatever becomes of the files during a trace, and however the server
behaves, it does not fail as a file does. A location whose document cannot be
opened is passed over, and the trace is the same as one that cuts the text of
each function from the text that is held of its document, whatever it would do
about a document that was never opened. -/
theorem traceAt_files (b : Behaviour) (env : Environment) (cwd : List String)
    (files : Path → Online → Except Failure (List UInt8) × Disk) (s : Session Online)
    (hs : Online.InUse b s.world) {file : String} {path : Path}
    (hp : (Path.ofString file).normalise env cwd = .ok path) (maxDepth : Int) (p : Position) :
    Spared (outcome (traceAt (Online.shifting b env cwd files) maxDepth file p) s).1 ∧
    (∀ (l : Location) (rest : List Location) (uri : String) (e : Failure) (u v : Session Online),
      addressText l.uri = .ok uri →
      outcome (openDocument (Online.shifting b env cwd files) uri) u = (.error e, v) →
      e.isFile = true ∨ e.isRefusal = true →
        outcome (targetFor (Online.shifting b env cwd files) l) u = (.ok none, unopened l e v) ∧
        outcome (firstTarget (Online.shifting b env cwd files) (l :: rest)) u =
          outcome (firstTarget (Online.shifting b env cwd files) rest) (unopened l e v)) ∧
    ∀ fallback : CallTarget → Client Online String,
      outcome (traceAt (Online.shifting b env cwd files) maxDepth file p) s =
        outcome (traceAtBy (Online.shifting b env cwd files) (heldText fallback) maxDepth file p)
          s := by
  refine ⟨spared_traceAt (Online.served_shifting b env cwd files) hs hp maxDepth p, ?_, ?_⟩
  · intro l rest uri e u v huri hopen he
    exact ⟨targetFor_unopened huri hopen he, firstTarget_unopened huri hopen he rest⟩
  · exact fun fallback => (outcome_traceAtBy_held fallback maxDepth file p s).symm

def gone : Location := ⟨.text "file:///gone", .origin⟩

/-- A server that knows a script. Of the places it names for a call the first
is gone. -/
def Script.server (script : Script) : Behaviour where
  launch _ _ := .ok ()
  react _ _ message :=
    match message.get? "method", message.get? "id" with
    | some (.text method), some id =>
      .take [.emit (Wire.encode (Wire.answer id
        (if method = "initialize" then .object [("capabilities", script.world.capabilities ())]
        else if method = outlineMethod then .list (script.lines.map Line.symbol)
        else .list (gone.toJson ::
          entries (script.implementation ((message.get? "params").getD .null))))))]
    | _, _ => .take []
  processId := 1

def Script.disk (script : Script) : Disk :=
  ⟨[(["m"], script.text.map fun c => c.toNat.toUInt8)], Disk.around []⟩

def vanishing (path : Path) (s : Online) : Except Failure (List UInt8) × Disk :=
  (s.disk.read [] path, Disk.empty [])

def Script.started (script : Script) : Turn Online Json :=
  Online.turn script.server (fun ticket => .start ticket .null)
    (Online.start Wire.Connection.sampleStart script.disk)

theorem inUse_diamond : Online.InUse Script.diamond.server Script.diamond.started.world := by
  have hstart : Script.diamond.started.result.toOption.isSome = true := by decide +kernel
  cases h : Script.diamond.started.result with
  | error e => simp [h, Except.toOption] at hstart
  | ok value =>
      have hfresh : Connection.fresh ["server"] ⟨.root, []⟩ (.whole 5) 1 =
          .ok Wire.Connection.sampleStart := rfl
      exact .started hfresh h

def emptied : Session Online := .start (Online.start Wire.Connection.sampleStart (Disk.empty []))

def goneFile : Path := ⟨.root, ["gone"]⟩

theorem pathOfUri_gone : pathOfUri "file:///gone" = .ok goneFile := by
  have hsome : (pathOfUri "file:///gone").toOption = some goneFile := by decide +kernel
  cases h : pathOfUri "file:///gone" with
  | error e => simp [h, Except.toOption] at hsome
  | ok path =>
      rw [h] at hsome
      exact congrArg Except.ok (Option.some.inj hsome)

theorem read_gone : (Disk.empty []).read [] goneFile = .error (.file (.missing "/gone")) := by
  have htext : goneFile.toText = "/gone" := by decide +kernel
  have hnul : goneFile.hasNul = false := by decide +kernel
  have hplace : (Disk.empty []).locate [] goneFile = .ok ["gone"] := by
    rw [Disk.locate, htext]
    rfl
  have hfolder : (Disk.empty []).isFolder ["gone"] = false := rfl
  have hfile : (Disk.empty []).file? ["gone"] = none := rfl
  simp [Disk.read, hnul, hplace, htext, hfile, hfolder]

theorem openDocument_gone (b : Behaviour) :
    outcome (openDocument (Online.shifting b [] [] vanishing) "file:///gone") emptied =
      (.error (.file (.missing "/gone")), emptied) := by
  rw [openDocument, outcome_bind, outcome_ensureOpen_unknown _ rfl, pathOfUri_gone]
  simp [Online.shifting, vanishing, afterReading, emptied, Session.start, Online.start, read_gone]

theorem traceAt_files_diamond : ∃ tree t,
    outcome (traceAt (Online.shifting Script.diamond.server [] [] vanishing) 5 "/m" .origin)
      (.start Script.diamond.started.world) = (.ok (some tree), t) ∧
    tree.names = (["m.r", "m.a", "m.c", "m.d", "m.b", "m.c"] : List Name) ∧
    Spared (outcome (traceAt (Online.shifting Script.diamond.server [] [] vanishing) 5 "/m" .origin)
      (.start Script.diamond.started.world)).1 ∧
    outcome (targetFor (Online.shifting Script.diamond.server [] [] vanishing) gone) emptied =
      (.ok none, unopened gone (.file (.missing "/gone")) emptied) ∧
    outcome (traceAtBy (Online.shifting Script.diamond.server [] [] vanishing)
      (heldText fun _ => throw .exhausted) 5 "/m" .origin) (.start Script.diamond.started.world) =
        (.ok (some tree), t) := by
  obtain ⟨found, t, h, hview⟩ : ∃ found t,
      outcome (traceAt (Online.shifting Script.diamond.server [] [] vanishing) 5 "/m" .origin)
        (.start Script.diamond.started.world) = (.ok found, t) ∧
      found.map CallTree.names = some (["m.r", "m.a", "m.c", "m.d", "m.b", "m.c"] : List Name) :=
    exists_result (by decide +kernel)
  obtain ⟨tree, rfl, hnames⟩ := Option.map_eq_some_iff.mp hview
  have hp : (Path.ofString "/m").normalise [] [] = .ok (Path.ofString "/m") := rfl
  obtain ⟨hspared, hunopened, hheld⟩ := traceAt_files Script.diamond.server [] [] vanishing
    (.start Script.diamond.started.world) inUse_diamond hp 5 .origin
  refine ⟨tree, t, h, hnames, hspared, ?_, (hheld _).symm.trans h⟩
  exact (hunopened gone [] "file:///gone" _ _ _ rfl (openDocument_gone _) (.inl rfl)).1

end CodeAtlas.CallTrace
