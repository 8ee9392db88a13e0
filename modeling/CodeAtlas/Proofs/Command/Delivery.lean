import CodeAtlas.Command.Run
import CodeAtlas.Proofs.Disk
import CodeAtlas.Proofs.Fallible

namespace CodeAtlas.Command

variable {α : Type} (x : Toolkit)

/-- Nothing was put out, and the status does not say that all went well. -/
structure Report.Fails (r : Report) : Prop where
  out : r.out = ""
  status : r.status ≠ .ok 0

theorem fails_quiet (e : Failure) : (Report.quiet (.error e)).Fails := ⟨rfl, nofun⟩

theorem fails_complaint (env : Environment) (tone : Console.Tone) (text : String) :
    (Report.complaint x env 1 tone text).Fails := ⟨rfl, nofun⟩

/-- The whole of a text went to the output, or to the file that was named for
it, and nowhere else. -/
def Put (w : Workplace) (output : Slot Path) (whole : String) (run : Report × Workplace) : Prop :=
  match output with
  | .absent => run.1.out = whole ∧ run.2.disk = w.disk
  | .blank => False
  | .given path => run.1.out = "" ∧ ∃ place, w.disk.locate w.cwd path = .ok place ∧
      w.disk.Wrote place (Text.Utf8.encode whole.toList) run.2.disk

/-- What was found was put somewhere, as a text that ends its line. Where
nothing was found nothing was put anywhere. -/
def Delivered (w : Workplace) (output : Slot Path) (render : α → Except Failure Page)
    (run : Report × Workplace) : Option α → Prop
  | none => run.1.out = "" ∧ run.2.disk = w.disk
  | some a => ∃ page, render a = .ok page ∧ page.isEncodable = true ∧ Put w output page.whole run

/-- The run was broken off by a text that has no bytes, when the file named for
it had been opened: that is empty now, and nothing else is different. -/
def Emptied (w : Workplace) (output : Slot Path) (run : Report × Workplace) : Prop :=
  run.1.status = .error .unencodable ∧ ∃ path place, output = .given path ∧
    w.disk.locate w.cwd path = .ok place ∧ w.disk.Wrote place [] run.2.disk

/-- A run fails, with the disk as it was or else with this loss, or all went
well and this holds. -/
def Settles (w : Workplace) (run : Report × Workplace) (loss P : Prop) : Prop :=
  run.1.Fails ∧ (run.2.disk = w.disk ∨ loss) ∨ run.1.status = .ok 0 ∧ P

theorem settles_emit (w : Workplace) (output : Slot Path) (page : Page) :
    Settles w (emit x w output page) (Emptied w output (emit x w output page))
      (page.isEncodable = true ∧ Put w output page.whole (emit x w output page)) := by
  cases output with
  | absent =>
      unfold emit
      cases he : page.isEncodable with
      | true => exact .inr ⟨rfl, rfl, rfl, rfl⟩
      | false => exact .inl ⟨fails_quiet _, .inl rfl⟩
  | blank => exact .inl ⟨fails_quiet _, .inl rfl⟩
  | given path =>
      cases hw : w.disk.write w.cwd path (page.bytes?.getD []) with
      | error e =>
          simp only [emit, hw]
          exact .inl ⟨fails_quiet _, .inl rfl⟩
      | ok disk =>
          obtain ⟨place, hl, hwrote⟩ := Disk.write_ok hw
          simp only [emit, hw]
          cases he : page.isEncodable with
          | true =>
              have hbytes : page.bytes?.getD [] = Text.Utf8.encode page.whole.toList := by
                rw [Page.bytes?, if_pos he, Option.getD_some]
              exact .inr ⟨rfl, rfl, rfl, place, hl, hbytes ▸ hwrote⟩
          | false =>
              have hbytes : page.bytes?.getD [] = [] := by simp [Page.bytes?, he]
              exact .inl ⟨fails_quiet _, .inr ⟨rfl, path, place, rfl, hl, hbytes ▸ hwrote⟩⟩

theorem fails_failed (env : Environment) (e : Failure) (purpose : String) :
    (failed x env e purpose).Fails := by
  unfold failed
  split
  · exact fails_complaint _ _ _ _
  · split
    · exact fails_complaint _ _ _ _
    · exact fails_quiet _

theorem settles_conclude (w : Workplace) (place : Place) (purpose nothing : String)
    (v : Visit (Option α)) (render : α → Except Failure Page) :
    Settles w (conclude x w place purpose nothing v render)
      (Emptied w place.output (conclude x w place purpose nothing v render))
      (∃ found, v.result = .ok found ∧
        Delivered w place.output render (conclude x w place purpose nothing v render) found) := by
  unfold conclude
  cases hv : v.result with
  | error e =>
      have h := fails_failed x w.env e purpose
      exact .inl ⟨⟨h.out, h.status⟩, .inl rfl⟩
  | ok found =>
      cases found with
      | none => exact .inr ⟨rfl, none, rfl, rfl, rfl⟩
      | some a =>
          dsimp only
          cases hr : render a with
          | error e => exact .inl ⟨⟨rfl, nofun⟩, .inl rfl⟩
          | ok page =>
              -- what is logged and sent besides touches neither status nor output
              obtain ⟨h, hd⟩ | ⟨hs, he, hput⟩ := settles_emit x w place.output page
              · exact .inl ⟨⟨h.out, h.status⟩, hd⟩
              · refine .inr ⟨hs, some a, rfl, page, hr, he, ?_⟩
                cases ho : place.output <;> rw [ho] at hput <;> exact hput

theorem fails_refusedSettings (env : Environment) (e : Failure) :
    (refusedSettings x env e).Fails := by
  unfold refusedSettings
  split
  · exact fails_complaint _ _ _ _
  · exact fails_quiet _

theorem fails_checkFile {w : Workplace} {place : Place} {report : Report}
    (h : checkFile x w place = .error report) : report.Fails := by
  unfold checkFile at h
  repeat' split at h
  all_goals cases h
  · exact fails_quiet _
  · exact fails_quiet _
  · exact fails_complaint _ _ _ _

theorem fails_checkPosition {env : Environment} {place : Place} {report : Report}
    (h : checkPosition x env place = .error report) : report.Fails := by
  unfold checkPosition at h
  repeat' split at h
  all_goals cases h
  · exact fails_quiet _
  · exact fails_complaint _ _ _ _
  · exact fails_quiet _
  · exact fails_complaint _ _ _ _

theorem prepare_eq (w : Workplace) (place : Place) (method : Option String)
    (maxDepth : Slot Int) :
    ∃ shared, (prepare x w place method maxDepth).2 = { w with settings := shared } := by
  unfold prepare
  dsimp only
  split <;> exact ⟨_, rfl⟩

theorem fails_prepare {w : Workplace} {place : Place} {method : Option String}
    {maxDepth : Slot Int} {report : Report}
    (h : (prepare x w place method maxDepth).1 = .error report) : report.Fails := by
  unfold prepare at h
  dsimp only at h
  split at h
  next found hs =>
    obtain rfl := Except.error.inj h
    cases hf : checkFile x w place with
    | error early =>
        rw [hf] at hs
        obtain rfl := Except.error.inj hs
        exact fails_checkFile x hf
    | ok path =>
        cases hp : checkPosition x w.env place with
        | error early =>
            rw [hf, hp] at hs
            obtain rfl := Except.error.inj hs
            exact fails_checkPosition x hp
        | ok position =>
            rw [hf, hp] at hs
            cases hs
  next =>
    cases hs : (settingsFor w.env w.settings (overridesOf place method maxDepth)).1 with
    | error e =>
        rw [hs] at h
        obtain rfl := Except.error.inj h
        exact fails_refusedSettings x w.env e
    | ok s =>
        rw [hs] at h
        cases h

variable (b : Wire.Behaviour)

def typesWork (bound : Nat) (mode : Slot Mode) (fromRoot : Bool) (p : Prepared)
    (world : World Wire.Online) : Client Wire.Online (Option TypeGraph) := do
  let mode ← Client.attempt (modeOf mode)
  Hierarchy.buildAt world Identity.byName p.settings bound p.file.toText p.position mode fromRoot

def callsWork (p : Prepared) (world : World Wire.Online) : Client Wire.Online (Option CallTree) :=
  CallTrace.traceAt world p.settings.maxDepth p.file.toText p.position

/-- A command once it is prepared: one visit, and then its report. -/
def conduct (place : Place) (purpose nothing : String)
    (work : Prepared → World Wire.Online → Client Wire.Online (Option α))
    (render : α → Except Failure Page) : Except Report Prepared × Workplace → Report × Workplace
  | (.error report, after) => (report, after)
  | (.ok p, after) =>
    conclude x after place purpose nothing (visit b after p.settings (work p)) render

theorem runTypes_eq (bound : Nat) (w : Workplace) (place : Place) (mode : Slot Mode)
    (fromRoot outline : Bool) (method : Option String) :
    runTypes x b bound w place mode fromRoot outline method =
      conduct x b place "cannot build a type hierarchy." "No type hierarchy available"
        (typesWork bound mode fromRoot) (renderTypes place outline)
        (prepare x w place method .absent) := by
  unfold runTypes conduct
  rcases prepare x w place method .absent with ⟨_ | _, _⟩ <;> rfl

theorem runCalls_eq (w : Workplace) (place : Place) (maxDepth : Slot Int) :
    runCalls x b w place maxDepth =
      conduct x b place "cannot trace calls." "No function found at the given position" callsWork
        (renderCalls place) (prepare x w place none maxDepth) := by
  unfold runCalls conduct
  rcases prepare x w place none maxDepth with ⟨_ | _, _⟩ <;> rfl

/-- The visit of a prepared command came to a result, and that was delivered. -/
def Concluded (w : Workplace) (output : Slot Path)
    (work : Prepared → World Wire.Online → Client Wire.Online (Option α))
    (render : α → Except Failure Page) (prepared : Except Report Prepared × Workplace)
    (run : Report × Workplace) : Prop :=
  ∃ p found, prepared.1 = .ok p ∧
    (visit b prepared.2 p.settings (work p)).result = .ok found ∧
      Delivered w output render run found

theorem settles_conduct (w : Workplace) (place : Place) (purpose nothing : String)
    (work : Prepared → World Wire.Online → Client Wire.Online (Option α))
    (render : α → Except Failure Page) (method : Option String) (maxDepth : Slot Int) :
    let prepared := prepare x w place method maxDepth
    let run := conduct x b place purpose nothing work render prepared
    Settles w run (Emptied w place.output run)
      (Concluded b w place.output work render prepared run) := by
  intro prepared run
  obtain ⟨shared, hafter⟩ := prepare_eq x w place method maxDepth
  rcases hp : prepare x w place method maxDepth with ⟨report | p, after⟩
  · rw [hp] at hafter
    subst hafter
    have h : report.Fails := fails_prepare x (congrArg Prod.fst hp)
    simp only [run, prepared, hp]
    exact .inl ⟨h, .inl rfl⟩
  · rw [hp] at hafter
    subst hafter
    simp only [run, prepared, hp]
    obtain h | ⟨hs, found, hf, hd⟩ := settles_conclude x { w with settings := shared } place
      purpose nothing (visit b _ p.settings (work p)) render
    · exact .inl h
    · exact .inr ⟨hs, p, found, rfl, hf, hd⟩

@[simp]
theorem Report.status_after (err : String) (r : Report) : (r.after err).status = r.status := rfl

theorem run_ok {words : List String} {w loaded : Workplace} {invocation : Invocation}
    {notes : String} {bound : Nat} (hw : Invocation.ofWords words = .ok invocation)
    (hl : loadEnvFile x w = (loaded, notes, none)) :
    (runWith x b bound words w).1 = (runInvocation x b bound loaded invocation).1.after notes ∧
      (runWith x b bound words w).2 = (runInvocation x b bound loaded invocation).2 := by
  simp only [runWith, hw, hl, and_self]

theorem loadEnvFile_eq (w : Workplace) : ∃ env, (loadEnvFile x w).1 = { w with env := env } :=
  ⟨_, rfl⟩

/-- The command that the words name, whatever else they say. -/
def commandNamed (words : List String) : Option String :=
  match mainGrammar.read words with
  | .ok (bound, _) => match bound.lookup "COMMAND" with
    | some (.words (name :: _)) => some name
    | _ => none
  | .error _ => none

theorem ofWords_ok {words : List String} {name : String} {invocation : Invocation}
    (hn : commandNamed words = some name) (h : Invocation.ofWords words = .ok invocation) :
    ∃ bindings, invocation = .ofBindings name bindings := by
  unfold commandNamed at hn
  unfold Invocation.ofWords at h
  rcases hread : mainGrammar.read words with stop | ⟨bound, extras⟩
  · simp [hread] at hn
  · simp only [hread] at hn
    split at hn
    next name' rest hlookup =>
      obtain rfl := Option.some.inj hn
      simp only [hread, mapError_ok, bind, Except.bind, hlookup] at h
      rcases hinner : (grammarOf name').read rest with stop | ⟨inner, more⟩
      · simp [hinner, mapError_error] at h
      · simp only [hinner, mapError_ok] at h
        split at h
        · exact ⟨inner, (Except.ok.inj h).symm⟩
        · cases h
    next => cases hn

/-- What a run of a diagram command came to, with the variables it was run under. -/
def Invocation.Concluded (bound : Nat) (w loaded : Workplace) (run : Report × Workplace) :
    Invocation → Prop
  | .types place mode fromRoot outline method =>
    Command.Concluded b w place.output (typesWork bound mode fromRoot) (renderTypes place outline)
      (prepare x loaded place method .absent) run
  | .calls place maxDepth =>
    Command.Concluded b w place.output callsWork (renderCalls place)
      (prepare x loaded place none maxDepth) run
  | _ => False

/-- Where the words of a diagram command want its result. -/
def Invocation.output : Invocation → Slot Path
  | .types place .. => place.output
  | .calls place _ => place.output
  | _ => .absent

variable {b} {bound : Nat} {w : Workplace}

theorem settles_runInvocation {name : String} (hname : name ∈ ["types", "calls"])
    (bindings : Bindings) (env : Environment) :
    let invocation := Invocation.ofBindings name bindings
    let run := runInvocation x b bound { w with env := env } invocation
    Settles w run (Emptied w invocation.output run)
      (invocation.Concluded x b bound w { w with env := env } run) := by
  simp only [List.mem_cons, List.not_mem_nil, or_false] at hname
  obtain rfl | rfl := hname
  · simp only [Invocation.ofBindings, runInvocation, runTypes_eq]
    exact settles_conduct x b { w with env := env } _ _ _ _ _ _ _
  · simp only [Invocation.ofBindings, runInvocation, runCalls_eq]
    exact settles_conduct x b { w with env := env } _ _ _ _ _ _ _

/-- A run of a diagram command fails, and leaves the disk as it was or the file
for its result empty, or all went well and its whole result was delivered. -/
theorem settles_run {words : List String}
    (hn : ∃ name ∈ ["types", "calls"], commandNamed words = some name)
    (hhelp : ∀ page, Invocation.ofWords words ≠ .error (.help page)) :
    let run := runWith x b bound words w
    Settles w run
      (∃ invocation, Invocation.ofWords words = .ok invocation ∧ Emptied w invocation.output run)
      (∃ invocation, Invocation.ofWords words = .ok invocation ∧
        invocation.Concluded x b bound w (loadEnvFile x w).1 run) := by
  intro run
  obtain ⟨name, hname, hn⟩ := hn
  rcases hw : Invocation.ofWords words with halt | invocation
  · cases halt with
    | help page => exact absurd hw (hhelp page)
    | misuse text =>
        simp only [run, runWith, hw]
        exact .inl ⟨⟨rfl, nofun⟩, .inl rfl⟩
  · obtain ⟨bindings, rfl⟩ := ofWords_ok hn hw
    obtain ⟨env, hloaded⟩ := loadEnvFile_eq x w
    rcases hl : loadEnvFile x w with ⟨loaded, notes, broken⟩
    rw [hl] at hloaded
    subst hloaded
    simp only [run, runWith, hw, hl]
    cases broken with
    | some e => exact .inl ⟨⟨rfl, nofun⟩, .inl rfl⟩
    | none =>
        obtain ⟨hf, hd⟩ | ⟨hs, hc⟩ := settles_runInvocation x hname bindings env
        · exact .inl ⟨⟨hf.out, hf.status⟩, hd.imp_right fun hemptied => ⟨_, rfl, hemptied⟩⟩
        · exact .inr ⟨hs, _, rfl, hc⟩

/-- Whatever the words of a diagram command, the environment, the files and the
server, and however variables are loaded and status lines drawn: a status other
than zero comes with nothing put out and the disk as it was. On the status zero
a search came to its end; if it found anything, then all of it was put out or
written to the file asked for, never both, and if there was nothing to find then
nothing was put anywhere. A run that a failure breaks off has no status. It puts
nothing out either, and leaves the disk as it was, unless it is the result that
has no bytes and the file for it that is left empty. Words that ask for a page
of help get no run at all. -/
theorem run_delivers (x : Toolkit) (b : Wire.Behaviour) (bound : Nat) (words : List String)
    (w : Workplace) (hn : ∃ name ∈ ["types", "calls"], commandNamed words = some name)
    (hhelp : ∀ page, Invocation.ofWords words ≠ .error (.help page)) :
    (∀ n, (runWith x b bound words w).1.status = .ok n → n ≠ 0 →
      (runWith x b bound words w).1.out = "" ∧ (runWith x b bound words w).2.disk = w.disk) ∧
    ((runWith x b bound words w).1.status = .ok 0 →
      ∃ invocation, Invocation.ofWords words = .ok invocation ∧
        invocation.Concluded x b bound w (loadEnvFile x w).1 (runWith x b bound words w)) ∧
    (∀ e, (runWith x b bound words w).1.status = .error e →
      (runWith x b bound words w).1.out = "" ∧
      ((runWith x b bound words w).2.disk = w.disk ∨
        ∃ invocation, Invocation.ofWords words = .ok invocation ∧
          Emptied w invocation.output (runWith x b bound words w))) := by
  obtain ⟨hfails, hdisk⟩ | ⟨hzero, hconcluded⟩ := settles_run x hn hhelp
  · refine ⟨fun n hs _ => ⟨hfails.out, hdisk.resolve_right ?_⟩,
      fun hzero => absurd hzero hfails.status, fun _ _ => ⟨hfails.out, hdisk⟩⟩
    rintro ⟨_, -, hbroken, -⟩
    cases hs.symm.trans hbroken
  · refine ⟨fun n hs hne => ?_, fun _ => hconcluded, fun e hs => ?_⟩
    · exact absurd (Except.ok.inj (hs.symm.trans hzero)) hne
    · cases hs.symm.trans hzero

def capabilitiesOf (names : List String) : Json :=
  .object [("capabilities", .object (names.map fun name => (name, .bool true)))]

/-- A server that knows one type, at every place, and one function in every
file, both of one name. -/
def lone (name : Json) : Wire.Behaviour where
  launch _ _ := .ok ()
  react _ _ message :=
    match message.get? "method", message.get? "id" with
    | some (.text "exit"), none => .take [.leave 0, .close]
    | some (.text method), some id =>
      .take [.emit (Wire.encode (Wire.answer id
        (if method = "initialize" then
          capabilitiesOf [Client.typeCapability, Client.implementationCapability,
            Client.outlineCapability]
        else if method = Lookup.standardMethod then .object [("name", name)]
        else if method = Client.outlineMethod then
          .list [.object [("name", name), ("kind", .int 12)]]
        else .null)))]
    | _, _ => .take []
  processId := 1

def desk : Workplace := ⟨[], ["w"], ⟨[(["w", "m"], [])], Disk.around ["w"]⟩, none⟩

def callsWords (column : String) : List String := ["calls", "m", "1", column, "-o", "out"]

def callsInvocation (column : Int) : Invocation :=
  .calls ⟨some (Path.ofString "m"), some 1, some column, none, none, false, false,
    .given (Path.ofString "out"), false⟩ .absent

theorem runInvocation_calls :
    (runInvocation .standard (lone (.text "f")) 1 desk (callsInvocation 1)).1.status.toOption =
        some 0 ∧
      (runInvocation .standard (lone (.text "f")) 1 desk (callsInvocation 1)).2.disk.file?
        ["w", "out"] = some (Text.Utf8.encode "sequenceDiagram\nparticipant m.f\n".toList) := by
  decide +kernel

theorem runInvocation_spoiled :
    (runInvocation .standard (lone (.unpaired [0xD800])) 1 desk
        (callsInvocation 1)).1.status.toOption = none ∧
      (runInvocation .standard (lone (.unpaired [0xD800])) 1 desk
        (callsInvocation 1)).2.disk.file? ["w", "out"] = some [] := by
  decide +kernel

theorem loadEnvFile_desk : loadEnvFile .standard desk = (desk, "", none) := rfl

theorem run_calls (b : Wire.Behaviour) {words : List String} {invocation : Invocation}
    (hw : Invocation.ofWords words = .ok invocation) :
    (runWith .standard b 1 words desk).1.status =
        (runInvocation .standard b 1 desk invocation).1.status ∧
      (runWith .standard b 1 words desk).2 =
        (runInvocation .standard b 1 desk invocation).2 := by
  obtain ⟨hreport, hafter⟩ := run_ok .standard b hw loadEnvFile_desk
  exact ⟨congrArg Report.status hreport, hafter⟩

/-- A column before the first is refused; at the first one a tree is found and
written to the file, or else it has no bytes and the file is left empty. -/
theorem run_delivers_calls :
    ((runWith .standard (lone (.text "f")) 1 (callsWords "0") desk).1.status = .ok 1 ∧
      (runWith .standard (lone (.text "f")) 1 (callsWords "0") desk).1.out = "" ∧
      (runWith .standard (lone (.text "f")) 1 (callsWords "0") desk).2.disk = desk.disk) ∧
    ((runWith .standard (lone (.text "f")) 1 (callsWords "1") desk).2.disk.file? ["w", "out"] =
        some (Text.Utf8.encode "sequenceDiagram\nparticipant m.f\n".toList) ∧
      ∃ invocation, Invocation.ofWords (callsWords "1") = .ok invocation ∧
        invocation.Concluded .standard (lone (.text "f")) 1 desk desk
          (runWith .standard (lone (.text "f")) 1 (callsWords "1") desk)) ∧
    ∃ e, (runWith .standard (lone (.unpaired [0xD800])) 1 (callsWords "1") desk).1.status =
        .error e ∧
      (runWith .standard (lone (.unpaired [0xD800])) 1 (callsWords "1") desk).1.out = "" ∧
      (runWith .standard (lone (.unpaired [0xD800])) 1 (callsWords "1") desk).2.disk.file?
        ["w", "out"] = some [] := by
  have hnamed : ∀ column ∈ ["0", "1"], ∃ name ∈ ["types", "calls"],
      commandNamed (callsWords column) = some name := by
    decide +kernel
  have hwords : Invocation.ofWords (callsWords "0") = .ok (callsInvocation 0) := rfl
  have hwords' : Invocation.ofWords (callsWords "1") = .ok (callsInvocation 1) := rfl
  refine ⟨?_, ?_, ?_⟩
  · obtain ⟨hnothing, -⟩ := run_delivers .standard (lone (.text "f")) 1 (callsWords "0") desk
      (hnamed "0" (by decide)) (by rw [hwords]; nofun)
    have hrefused : (runWith .standard (lone (.text "f")) 1 (callsWords "0") desk).1.status =
        .ok 1 := by
      rw [(run_calls (lone (.text "f")) hwords).1]
      rfl
    exact ⟨hrefused, hnothing 1 hrefused (by decide)⟩
  · obtain ⟨-, hdelivered, -⟩ := run_delivers .standard (lone (.text "f")) 1 (callsWords "1") desk
      (hnamed "1" (by decide)) (by rw [hwords']; nofun)
    obtain ⟨hstatus, hafter⟩ := run_calls (lone (.text "f")) hwords'
    obtain ⟨hzero, hheld⟩ := runInvocation_calls
    refine ⟨?_, hdelivered (hstatus.trans (eq_ok_of_toOption hzero))⟩
    rw [hafter, hheld]
  · obtain ⟨-, -, hlost⟩ := run_delivers .standard (lone (.unpaired [0xD800])) 1 (callsWords "1")
      desk (hnamed "1" (by decide)) (by rw [hwords']; nofun)
    obtain ⟨hstatus, hafter⟩ := run_calls (lone (.unpaired [0xD800])) hwords'
    obtain ⟨hnone, hheld⟩ := runInvocation_spoiled
    obtain ⟨e, he⟩ := eq_error_of_toOption hnone
    refine ⟨e, hstatus.trans he, (hlost e (hstatus.trans he)).1, ?_⟩
    rw [hafter, hheld]

end CodeAtlas.Command
