import CodeAtlas.Proofs.Command.Alike
import CodeAtlas.Proofs.Settings.Sound

namespace CodeAtlas.Command

/-- The words for a diagram. -/
inductive Request
  | types (place : Place) (mode : Slot Mode) (fromRoot : Bool) (outline : Bool)
    (method : Option String)
  | calls (place : Place) (maxDepth : Slot Int)

namespace Request

def invocation : Request → Invocation
  | .types place mode fromRoot outline method => .types place mode fromRoot outline method
  | .calls place maxDepth => .calls place maxDepth

def place : Request → Place
  | .types place _ _ _ _ => place
  | .calls place _ => place

def method : Request → Option String
  | .types _ _ _ _ method => method
  | .calls _ _ => none

def maxDepth : Request → Slot Int
  | .types .. => .absent
  | .calls _ maxDepth => maxDepth

variable (q : Request)

def overrides : Except Failure Overrides := overridesOf q.place q.method q.maxDepth

def prepare (x : Toolkit) (w : Workplace) : Except Report Prepared × Workplace :=
  Command.prepare x w q.place q.method q.maxDepth

def conduct (x : Toolkit) (b : Wire.Behaviour) (bound : Nat) :
    Request → Except Report Prepared × Workplace → Report × Workplace
  | .types place mode fromRoot outline _ =>
    Command.conduct x b place "cannot build a type hierarchy." "No type hierarchy available"
      (typesWork bound mode fromRoot) (renderTypes place outline)
  | .calls place _ =>
    Command.conduct x b place "cannot trace calls." "No function found at the given position"
      callsWork (renderCalls place)

theorem runInvocation_eq (x : Toolkit) (b : Wire.Behaviour) (bound : Nat) (w : Workplace) :
    runInvocation x b bound w q.invocation = q.conduct x b bound (q.prepare x w) := by
  cases q with
  | types place mode fromRoot outline method => exact runTypes_eq ..
  | calls place maxDepth => exact runCalls_eq ..

def command (env : Environment) : Except Failure (List String) :=
  Text.Words.split (((nonEmpty q.place.server).or (env.lookup Settings.serverVariable)).getD
    Settings.defaultServer)

def workspace (env : Environment) : Except Failure (Option Path) :=
  match q.place.workspace with
  | some p => .ok (some p)
  | none => Settings.workspaceIn env

def lookup (env : Environment) : String :=
  (q.method.or (env.lookup Settings.methodVariable)).getD Lookup.standardMethod

def depth (env : Environment) : Except Failure Int :=
  match q.maxDepth.get? with
  | some n => .ok n
  | none => Settings.integerIn env Settings.depthVariable Settings.defaultMaxDepth

/-- A depth flag without a word leaves nothing to compare, once the rest is
in order. -/
def compared (s : Settings) : Except Failure Settings :=
  match q.maxDepth with
  | .blank => .error .wrongKind
  | _ => .ok s

def merged (env : Environment) : Except Failure Settings := do
  let command ← q.command env
  let workspace ← q.workspace env
  let levels ← Settings.integerIn env Settings.resolveVariable Lookup.resolveLevels
  let depth ← q.depth env
  let timeout ← Settings.timeoutIn env
  let checked ← Settings.check ⟨command, workspace, q.lookup env, .int levels, depth, timeout⟩
  q.compared checked

def covers (name : String) : Bool :=
  if name = Settings.serverVariable then (nonEmpty q.place.server).isSome
  else if name = Settings.workspaceVariable then q.place.workspace.isSome
  else if name = Settings.methodVariable then q.method.isSome
  else if name = Settings.depthVariable then q.maxDepth.get?.isSome
  else false

/-- Only variables whose flags are given are different. -/
def AgreeElsewhere (env env' : Environment) : Prop :=
  ∀ name, q.covers name = false → env.lookup name = env'.lookup name

end Request

variable {q : Request} {env env' : Environment} {s s' : Settings} {e : Failure}

namespace Request

theorem apply_eq (q : Request) (command : Option (List String)) (s : Settings) :
    Overrides.apply ⟨command, q.place.workspace, q.method, q.maxDepth⟩ s =
      Settings.check { s with
        command := command.getD s.command
        workspace := q.place.workspace.or s.workspace
        method := q.method.getD s.method
        maxDepth := q.maxDepth.get?.getD s.maxDepth } >>= q.compared := by
  unfold Overrides.apply compared
  cases q.maxDepth <;> rfl

theorem merged_of_sound (h : Settings.ofEnvironment env = .ok s) :
    q.overrides.bind (fun o => o.apply s) = q.merged env := by
  obtain ⟨command, hcommand, h⟩ := bind_eq_ok.mp h
  obtain ⟨workspace, hworkspace, h⟩ := bind_eq_ok.mp h
  obtain ⟨levels, hlevels, h⟩ := bind_eq_ok.mp h
  obtain ⟨depth, hdepth, h⟩ := bind_eq_ok.mp h
  obtain ⟨timeout, htimeout, h⟩ := bind_eq_ok.mp h
  obtain ⟨rfl, -⟩ := Settings.check_eq_ok.mp h
  have hplace : q.workspace env = .ok (q.place.workspace.or workspace) := by
    rw [Request.workspace]
    cases q.place.workspace with
    | none => exact hworkspace
    | some p => rfl
  have hlimit : q.depth env = .ok (q.maxDepth.get?.getD depth) := by
    rw [Request.depth]
    cases q.maxDepth.get? with
    | none => exact hdepth
    | some n => rfl
  have hlookup : q.method.getD ((env.lookup Settings.methodVariable).getD Lookup.standardMethod) =
      q.lookup env := by
    rw [Request.lookup]
    cases q.method <;> rfl
  have hmerged : q.merged env = q.command env >>= fun command =>
      Settings.check ⟨command, q.place.workspace.or workspace, q.lookup env, .int levels,
        q.maxDepth.get?.getD depth, timeout⟩ >>= q.compared := by
    simp only [merged, hplace, hlevels, hlimit, htimeout, ok_bind]
  rw [hmerged, overrides, overridesOf, Request.command, ← hlookup]
  cases nonEmpty q.place.server with
  | none =>
      rw [Option.none_or, hcommand]
      exact q.apply_eq none _
  | some text =>
      -- The flag is split before the environment is read; as that gives settings here, nothing
      -- shows of the order.
      rw [Option.some_or, Option.getD_some, Option.mapM_some]
      cases Text.Words.split text with
      | error e => rfl
      | ok given => exact q.apply_eq (some given) _

theorem settingsFor_of_sound (h : Settings.ofEnvironment env = .ok s) :
    (settingsFor env none q.overrides).1 = q.merged env := by
  rw [← merged_of_sound h]
  cases q.overrides with
  | error e => rfl
  | ok o => simp only [settingsFor, SharedSettings.get, h]; rfl

theorem settingsFor_of_unsound (h : Settings.ofEnvironment env = .error e) :
    ∃ e', (q.overrides = .error e' ∨ (∃ o, q.overrides = .ok o) ∧ e' = e) ∧
      settingsFor env none q.overrides = (.error e', none) := by
  cases ho : q.overrides with
  | error e' => exact ⟨e', .inl rfl, rfl⟩
  | ok o =>
      refine ⟨e, .inr ⟨⟨o, rfl⟩, rfl⟩, ?_⟩
      simp only [settingsFor, SharedSettings.get, h]
      rfl

end Request

theorem integerIn_congr {name : String} (h : env.lookup name = env'.lookup name) (standard : Int) :
    Settings.integerIn env name standard = Settings.integerIn env' name standard := by
  rw [Settings.integerIn, Settings.integerIn, h]

theorem or_lookup_congr {flag : Option String} {name : String}
    (h : flag.isSome = false → env.lookup name = env'.lookup name) :
    flag.or (env.lookup name) = flag.or (env'.lookup name) := by
  cases flag with
  | some word => rfl
  | none => rw [h rfl]

namespace Request

theorem merged_congr (h : q.AgreeElsewhere env env') : q.merged env = q.merged env' := by
  have hcommand : q.command env = q.command env' := by
    rw [Request.command, Request.command, or_lookup_congr (h Settings.serverVariable)]
  have hworkspace : q.workspace env = q.workspace env' := by
    rw [Request.workspace, Request.workspace]
    cases hf : q.place.workspace with
    | some p => rfl
    | none =>
        have hc : q.covers Settings.workspaceVariable = false := congrArg Option.isSome hf
        simp only [Settings.workspaceIn, h _ hc, expandHome_congr (h "HOME" rfl)]
  have hlookup : q.lookup env = q.lookup env' := by
    rw [Request.lookup, Request.lookup, or_lookup_congr (h Settings.methodVariable)]
  have hdepth : q.depth env = q.depth env' := by
    rw [Request.depth, Request.depth]
    cases hf : q.maxDepth.get? with
    | some n => rfl
    | none =>
        have hc : q.covers Settings.depthVariable = false := congrArg Option.isSome hf
        exact integerIn_congr (h _ hc) _
  have htimeout : Settings.timeoutIn env = Settings.timeoutIn env' := by
    rw [Settings.timeoutIn, Settings.timeoutIn, h Settings.timeoutVariable rfl]
  rw [merged, merged, hcommand, hworkspace, hlookup, hdepth, htimeout,
    integerIn_congr (h Settings.resolveVariable rfl)]

end Request

def flagged : List String :=
  [Settings.serverVariable, Settings.workspaceVariable, Settings.methodVariable,
    Settings.depthVariable]

theorem Request.covers_eq_false (q : Request) {name : String} (h : name ∉ flagged) :
    q.covers name = false := by
  simp only [flagged, List.mem_cons, List.not_mem_nil, or_false, not_or] at h
  simp only [covers, h, if_false]

/-- The variables that have flags make no difference to the look of a status line. -/
def Toolkit.Neutral (x : Toolkit) : Prop :=
  ∀ env env' : Environment, (∀ name, name ∉ flagged → env.lookup name = env'.lookup name) →
    x.line env = x.line env'

theorem Toolkit.Neutral.line_congr {x : Toolkit} (hx : x.Neutral)
    (h : q.AgreeElsewhere env env') : x.line env = x.line env' :=
  hx env env' fun name hn => h name (q.covers_eq_false hn)

theorem neutral_standard : Toolkit.standard.Neutral := by
  intro env env' h
  have hset {name : String} (hn : name ∉ flagged) :
      Palette.isSet env name = Palette.isSet env' name := by
    rw [Palette.isSet, Palette.isSet, h name hn]
  have hpalette : Palette.ofEnvironment env = Palette.ofEnvironment env' := by
    rw [Palette.ofEnvironment, Palette.ofEnvironment, Palette.isTerminal, Palette.isTerminal,
      Palette.isDumb, Palette.isDumb, h Palette.compatibleVariable (by decide),
      h Palette.terminalVariable (by decide), hset (by decide : Palette.forceVariable ∉ flagged),
      hset (by decide : Palette.refuseVariable ∉ flagged)]
  exact congrArg Console.line hpalette

variable {x : Toolkit} {w w' : Workplace}

theorem Request.conduct_congr (q : Request) (b : Wire.Behaviour) (bound : Nat) (h : w.Alike x w')
    (prepared : Except Report Prepared) :
    Same (q.conduct x b bound (prepared, w)) (q.conduct x b bound (prepared, w')) := by
  cases q with
  | types place mode fromRoot outline method => exact Command.conduct_congr b h ..
  | calls place maxDepth => exact Command.conduct_congr b h ..

structure Arrival where
  request : Request
  loaded : Workplace
  notes : String
  file : Path
  position : Position

/-- The words make sense, the variables of the file are loaded, the place is
checked, and no settings are known yet. -/
structure Arrives (x : Toolkit) (words : List String) (w : Workplace) (a : Arrival) : Prop where
  words : Invocation.ofWords words = .ok a.request.invocation
  loaded : loadEnvFile x w = (a.loaded, a.notes, none)
  unknown : w.settings = none
  file : checkFile x a.loaded a.request.place = .ok a.file
  position : checkPosition x a.loaded.env a.request.place = .ok a.position

/-- The rest of the run, by these settings or by what is wrong with them. -/
def Arrival.goOn (x : Toolkit) (b : Wire.Behaviour) (bound : Nat) (a : Arrival)
    (known : SharedSettings) (settings : Except Failure Settings) : Report × Workplace :=
  let (report, after) := a.request.conduct x b bound
    ((settings.mapError (refusedSettings x a.loaded.env)).map fun s => ⟨s, a.file, a.position⟩,
      { a.loaded with settings := known })
  (report.after a.notes, after)

variable {words : List String} {a : Arrival} {bound : Nat}

theorem goOn_error (x : Toolkit) (b : Wire.Behaviour) (known : SharedSettings) (e : Failure) :
    a.goOn x b bound known (.error e) =
      ((refusedSettings x a.loaded.env e).after a.notes, { a.loaded with settings := known }) := by
  obtain ⟨q, loaded, notes, file, position⟩ := a
  cases q <;> rfl

theorem Arrives.settings_loaded (h : Arrives x words w a) : a.loaded.settings = none := by
  obtain ⟨env, hloaded⟩ := loadEnvFile_eq x w
  rw [h.loaded] at hloaded
  exact (congrArg Workplace.settings hloaded).trans h.unknown

theorem prepare_of_checked {file : Path} {position : Position}
    (hf : checkFile x w q.place = .ok file) (hp : checkPosition x w.env q.place = .ok position) :
    q.prepare x w = ((((settingsFor w.env w.settings q.overrides).1.mapError
        (refusedSettings x w.env)).map fun s => ⟨s, file, position⟩),
      { w with settings := (settingsFor w.env w.settings q.overrides).2 }) := by
  simp only [Request.prepare, prepare, hf, hp, ok_bind]
  rfl

theorem run_arrived (b : Wire.Behaviour) (bound : Nat) (h : Arrives x words w a) :
    runWith x b bound words w =
      a.goOn x b bound (settingsFor a.loaded.env none a.request.overrides).2
        (settingsFor a.loaded.env none a.request.overrides).1 := by
  have hrun : (runWith x b bound words w).1 = _ ∧ (runWith x b bound words w).2 = _ :=
    run_ok x b h.words h.loaded
  rw [Request.runInvocation_eq, prepare_of_checked h.file h.position, h.settings_loaded] at hrun
  exact Prod.ext hrun.1 hrun.2

theorem run_arrived_sound (b : Wire.Behaviour) (bound : Nat) (h : Arrives x words w a)
    (hs : Settings.ofEnvironment a.loaded.env = .ok s) :
    ∃ known, runWith x b bound words w =
      a.goOn x b bound known (a.request.merged a.loaded.env) := by
  rw [run_arrived b bound h, Request.settingsFor_of_sound hs]
  exact ⟨_, rfl⟩

theorem run_arrived_unsound (b : Wire.Behaviour) (bound : Nat) (h : Arrives x words w a)
    (hs : Settings.ofEnvironment a.loaded.env = .error e) :
    ∃ e', (a.request.overrides = .error e' ∨ (∃ o, a.request.overrides = .ok o) ∧ e' = e) ∧
      runWith x b bound words w = ((refusedSettings x a.loaded.env e').after a.notes, a.loaded) := by
  obtain ⟨e', he, hsettings⟩ := Request.settingsFor_of_unsound hs
  refine ⟨e', he, ?_⟩
  rw [run_arrived b bound h, hsettings, goOn_error, ← h.settings_loaded]

/-- The same arrival, but for the environment. -/
def Arrival.under (a : Arrival) (env : Environment) : Arrival :=
  { a with loaded := { a.loaded with env := env } }

theorem goOn_congr (b : Wire.Behaviour) (hx : x.Neutral)
    (h : a.request.AgreeElsewhere a.loaded.env env)
    (known known' : SharedSettings) (settings : Except Failure Settings) :
    Same (a.goOn x b bound known settings) ((a.under env).goOn x b bound known' settings) := by
  have hline := hx.line_congr h
  have hrefused : refusedSettings x a.loaded.env = refusedSettings x env :=
    funext fun e => refusedSettings_congr hline e
  -- What is kept for later runs differs with the environments, but this run is past asking for it.
  have halike : Workplace.Alike x { a.loaded with settings := known }
      { a.loaded with env := env, settings := known' } := ⟨rfl, rfl, h "HOME" rfl, hline⟩
  obtain ⟨hreport, hdisk⟩ := a.request.conduct_congr b bound halike
    ((settings.mapError (refusedSettings x env)).map fun s => ⟨s, a.file, a.position⟩)
  refine ⟨?_, ?_⟩
  · rw [Arrival.goOn, Arrival.goOn, hrefused]
    exact congrArg (Report.after a.notes) hreport
  · rw [Arrival.goOn, Arrival.goOn, hrefused]
    exact hdisk

/-- A run that comes to its settings is refused if the environment gives none of
its own, whatever the flags say. If the environment does give some, then the run
goes by the flags first and by the variables only where there is no flag, or it is
refused for what is wrong with these settings; and in another such environment
that is different only in variables whose flags are given it is the same run. How
variables are loaded and status lines drawn is left open: all that counts is that
the variables with flags make no difference to a line, and to the usual one they
make none. -/
theorem run_by_flags (x : Toolkit) (b : Wire.Behaviour) (bound : Nat) (words : List String)
    (w : Workplace) (a : Arrival) (h : Arrives x words w a) :
    (∀ e, Settings.ofEnvironment a.loaded.env = .error e →
      ∃ e', (a.request.overrides = .error e' ∨ (∃ o, a.request.overrides = .ok o) ∧ e' = e) ∧
        runWith x b bound words w = ((refusedSettings x a.loaded.env e').after a.notes, a.loaded)) ∧
    (∀ s, Settings.ofEnvironment a.loaded.env = .ok s →
      (∃ known, runWith x b bound words w =
        a.goOn x b bound known (a.request.merged a.loaded.env)) ∧
      (x.Neutral → ∀ w' env s', Arrives x words w' (a.under env) →
        Settings.ofEnvironment env = .ok s' → a.request.AgreeElsewhere a.loaded.env env →
          Same (runWith x b bound words w) (runWith x b bound words w'))) ∧
    Toolkit.standard.Neutral := by
  refine ⟨fun e he => ?_, fun s hs => ?_, neutral_standard⟩
  · exact run_arrived_unsound b bound h he
  · obtain ⟨known, hrun⟩ := run_arrived_sound b bound h hs
    refine ⟨⟨known, hrun⟩, fun hx w' env s' h' hs' hagree => ?_⟩
    obtain ⟨known', hrun'⟩ := run_arrived_sound b bound h' hs'
    have hmerged : a.request.merged a.loaded.env = (a.under env).request.merged env :=
      Request.merged_congr hagree
    rw [hrun, hrun', hmerged]
    exact goOn_congr b hx hagree known known' _

def methodWords : List String :=
  ["types", "m", "1", "1", "--outline", "--hierarchy-method", Lookup.standardMethod]

def methodPlace : Place :=
  ⟨some (Path.ofString "m"), some 1, some 1, none, none, false, false, .absent, false⟩

def methodIs (text : String) : Environment := [(Settings.methodVariable, text)]

def deskUnder (env : Environment) : Workplace := { desk with env := env }

def methodArrival (env : Environment) : Arrival :=
  ⟨.types methodPlace .absent false true (some Lookup.standardMethod), deskUnder env, "",
    Path.ofString "m", ⟨0, 0⟩⟩

theorem arrives_methodWords (text : String) :
    Arrives .standard methodWords (deskUnder (methodIs text)) (methodArrival (methodIs text)) :=
  ⟨rfl, rfl, rfl, rfl, rfl⟩

theorem agree_methodIs (text text' : String) :
    (methodArrival (methodIs text)).request.AgreeElsewhere (methodIs text) (methodIs text') := by
  intro name hn
  by_cases hname : name = Settings.methodVariable
  · subst hname
    cases hn
  · have hne : (name == Settings.methodVariable) = false := by simpa using hname
    simp [methodIs, List.lookup_cons, hne]

theorem run_by_flags_method :
    Same (runWith .standard (lone (.text "A")) 1 methodWords
        (deskUnder (methodIs Lookup.standardMethod)))
      (runWith .standard (lone (.text "A")) 1 methodWords
        (deskUnder (methodIs Lookup.resolvingMethod))) ∧
    ∃ e, (runWith .standard (lone (.text "A")) 1 methodWords (deskUnder (methodIs "clangd"))).1 =
      (refusedSettings .standard (methodIs "clangd") e).after "" := by
  obtain ⟨-, hsound, hneutral⟩ := run_by_flags .standard (lone (.text "A")) 1 methodWords _ _
    (arrives_methodWords Lookup.standardMethod)
  obtain ⟨hunsound, -⟩ := run_by_flags .standard (lone (.text "A")) 1 methodWords _ _
    (arrives_methodWords "clangd")
  obtain ⟨-, hsame⟩ := hsound _ rfl
  obtain ⟨e, -, hrun⟩ := hunsound _ rfl
  exact ⟨hsame hneutral _ _ _ (arrives_methodWords Lookup.resolvingMethod) rfl (agree_methodIs _ _),
    e, congrArg Prod.fst hrun⟩

/-- The flag's method is a known one, yet what its variable holds breaks the run off. -/
theorem flag_under_unknown_method :
    (methodArrival (methodIs Lookup.standardMethod)).request.AgreeElsewhere
        (methodIs Lookup.standardMethod) (methodIs "clangd") ∧
      (∃ s, (methodArrival (methodIs "clangd")).request.merged (methodIs "clangd") = .ok s) ∧
      (run (lone (.text "A")) 1 methodWords
        (deskUnder (methodIs Lookup.standardMethod))).1.status = .ok 0 ∧
      (run (lone (.text "A")) 1 methodWords (deskUnder (methodIs "clangd"))).1.status = .ok 1 := by
  refine ⟨agree_methodIs _ _, ⟨_, rfl⟩, ?_, ?_⟩
  · apply eq_ok_of_toOption
    decide +kernel
  · apply eq_ok_of_toOption
    decide +kernel

end CodeAtlas.Command
