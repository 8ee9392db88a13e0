import CodeAtlas.Proofs.Wire.Callers
import CodeAtlas.Proofs.Wire.Replies

namespace CodeAtlas.Wire

theorem Peer.performAll_alive {p : Peer} {acts : List Act} (h : p.isAlive = true)
    (hstays : ∀ code, .leave code ∉ acts) : (p.performAll acts).isAlive = true := by
  induction acts generalizing p with
  | nil => exact h
  | cons act rest ih =>
      have hact : (p.perform act).isAlive = true := by
        cases act with
        | emit bytes => simp only [perform]; split <;> exact h
        | close => exact h
        | leave code => exact absurd List.mem_cons_self (hstays code)
      exact ih hact fun code hmem => hstays code (List.mem_cons_of_mem _ hmem)

namespace Connection

open Relation (ReflTransGen)

variable {b : Behaviour} {c d : Connection} {account : List Incident} {ticket process : Nat}

/-- Nothing was started, or all was stopped since, and nothing is under way. -/
structure Unstarted (c : Connection) : Prop where
  current : c.current = none
  posture : c.posture = (false, [])

/-- The process at hand lives and is read, and does not leave when it is
told that it was initialized. -/
def Attending (b : Behaviour) (process : Nat) (c : Connection) : Prop :=
  c.current = some process ∧ ∃ p, c.processes[process]? = some p ∧ p.isAlive = true ∧
    p.isReading = true ∧
    ∀ acts, b.react process p.received (notification "initialized" (.object [])) = .take acts →
      ∀ code, .leave code ∉ acts

/-- A start that has failed: it leaves a dead process, and does not hold it
unless the reader had died before. -/
structure Failed (ticket process : Nat) (c d : Connection) : Prop where
  reported : ∃ e, d.finished = c.finished ++ [(ticket, .error e)]
  dead : Dead process d
  notRunning : d.isRunning = false
  released : (∀ e, c.reader? ≠ some (.died e)) → d.current = none

/-- A start whose server was told that it is initialized. -/
structure Started (b : Behaviour) (ticket : Nat) (ending : Ending) (process : Nat)
    (c d : Connection) : Prop where
  reported : d.finished = c.finished ++ [(ticket, ending)]
  ready : d.initialized = true
  held : d.current = some process
  running : Attending b process c → d.isRunning = true

/-- A result that tells of the server what is neither an object nor empty. -/
def isOdd (reply : Except Failure Json) : Bool :=
  match reply.bind (resultOf "initialize") with
  | .ok result => (result.get? "serverInfo").any fun info => info.truthy && !info.isObject
  | .error _ => false

theorem isRunning_of_released (h : c.current = none) : c.isRunning = false := by
  simp [isRunning, currentPeer?, h]

theorem Failed.of_finished {c' : Connection} (h : Failed ticket process c' d)
    (hf : c'.finished = c.finished) (hr : c'.reader? = c.reader?) : Failed ticket process c d :=
  { h with reported := hf ▸ h.reported, released := hr ▸ h.released }

theorem failed_finishStop (ticket process : Nat) (e : Failure) (c : Connection) :
    Failed ticket process c (finishStop ticket process (.error e) c) := by
  have hdead := dead_finishStop ticket process (.error e) c
  have hposture := posture_finishStop ticket process (.error e) c
  have hidle := isRunning_of_uninitialized (posture_eq.mp hposture).1
  obtain ⟨e', hdied, heq⟩ | ⟨i, -, -, heq⟩ | ⟨-, heq⟩ :=
    finishStop_cases ticket process (.error e) c
  · exact ⟨⟨e', heq ▸ rfl⟩, hdead, hidle, fun hnot => absurd hdied (hnot e')⟩
  · exact ⟨⟨e, heq ▸ rfl⟩, hdead, hidle, fun _ => heq ▸ rfl⟩
  · exact ⟨⟨e, heq ▸ rfl⟩, hdead, hidle, fun _ => heq ▸ rfl⟩

theorem failed_beginStop (hi : c.initialized = false) (hcurrent : c.current = some process)
    (ticket : Nat) (e : Failure) : Failed ticket process c (beginStop b ticket (.error e) c) := by
  rw [beginStop_of_uninitialized hi, hcurrent]
  exact failed_finishStop ticket process e c

theorem beginStart_cases (hc : Unstarted c) (ticket : Nat) (value : Json) :
    Failed ticket c.processes.length c (beginStart b ticket value c) ∨
    ∃ id, (beginStart b ticket value c).posture = (false, [⟨ticket, .initializing id value⟩]) ∧
      (beginStart b ticket value c).current = some c.processes.length := by
  unfold beginStart
  split
  next fault _ =>
    -- nothing was launched, so there is no process of this number yet
    have hnone : Dead c.processes.length c := fun p hp => by simp at hp
    exact .inl ⟨⟨_, rfl⟩, hnone, isRunning_of_released hc.current, fun _ => hc.current⟩
  next =>
    simp only
    split
    next e after hsend =>
      obtain ⟨hs, n, -, ht⟩ := send_error hsend
      have hafter : after.initialized = false :=
        (posture_eq.mp ((posture_send hsend).trans hc.posture)).1
      -- the new process is read, so the stop lets go of it
      have hreading : after.reader? = some .reading :=
        hs.reader?.trans (reader?_eq_some.mpr ⟨_, Peer.fresh c.root.toText, rfl, by simp [note], rfl⟩)
      obtain ⟨⟨e', hreported⟩, hdead, hidle, hreleased⟩ :=
        failed_beginStop (b := b) hafter hs.held ticket e
      have hfinished : after.finished = c.finished := congrArg Table.finished ht
      exact .inl ⟨⟨e', hfinished ▸ hreported⟩, hdead, hidle, fun _ => hreleased (by simp [hreading])⟩
    next id after hsend =>
      obtain ⟨-, -, hs, -⟩ := send_ok hsend
      exact .inr ⟨id, posture_wait ((posture_send hsend).trans hc.posture) .., hs.held⟩

theorem adopt_ok {result : Json} (h : adopt result c = (.ok (), d)) :
    ∃ capabilities info, (result.orElse (.object [])).field "serverInfo" = .ok info ∧
      d = { c with capabilities, serverInfo := (info.getD .null).orElse (.object []) } := by
  simp only [adopt] at h
  split at h
  next capabilities info _ hinfo => exact ⟨_, info, hinfo, (Prod.mk.inj h).2.symm⟩
  all_goals cases (Prod.mk.inj h).1

theorem adopt_error {result : Json} {e : Failure} (h : adopt result c = (.error e, d)) : d = c := by
  simp only [adopt] at h
  split at h
  next => cases (Prod.mk.inj h).1
  all_goals exact (Prod.mk.inj h).2.symm

theorem isObject_adopted {reply : Except Failure Json} {result : Json}
    (hr : reply.bind (resultOf "initialize") = .ok result) (h : adopt result c = (.ok (), d)) :
    d.serverInfo.isObject = !isOdd reply := by
  obtain ⟨capabilities, info, hinfo, rfl⟩ := adopt_ok h
  simp only [isOdd, hr]
  cases ht : result.truthy with
  | false =>
      have hnone : result.get? "serverInfo" = none := by
        cases result <;> simp_all [Json.truthy, Json.get?]
      obtain rfl : none = info := by simpa [Json.orElse, ht, Json.field] using hinfo
      simp [hnone, Json.orElse, Json.truthy, Json.isObject]
  | true =>
      cases result with
      | object fields =>
          obtain rfl : fields.lookup "serverInfo" = info := by
            simpa [Json.orElse, ht, Json.field] using hinfo
          simp only [Json.get?]
          cases fields.lookup "serverInfo" with
          | none => rfl
          | some v => cases hv : v.truthy <;> simp [Json.orElse, hv, Json.isObject]
      | _ => simp [Json.orElse, ht, Json.field] at hinfo

theorem readyNote_of_isObject (program : String) {info : Json} (h : info.isObject = true) :
    ∃ message, readyNote program info = .ok message := by
  cases info with
  | object fields => exact ⟨_, rfl⟩
  | _ => simp [Json.isObject] at h

theorem readyNote_of_not_isObject (program : String) {info : Json} (h : info.isObject = false) :
    readyNote program info = .error .notObject := by
  cases info with
  | object fields => simp [Json.isObject] at h
  | _ => rfl

theorem becomeReady_spec (ticket : Nat) (value : Json) (c : Connection) :
    (becomeReady ticket value c).finished = c.finished ++
      [(ticket, if c.serverInfo.isObject then .ok value else .error .notObject)] ∧
    (becomeReady ticket value c).initialized = true ∧
    (becomeReady ticket value c).current = c.current ∧
    (becomeReady ticket value c).isRunning = c.currentPeer?.any fun p => p.isAlive && p.isReading := by
  simp only [becomeReady]
  cases hobject : c.serverInfo.isObject with
  | true =>
      obtain ⟨message, hnote⟩ := readyNote_of_isObject (c.command.headD "") hobject
      rw [hnote]
      exact ⟨rfl, rfl, rfl, by simp [isRunning, report, note, currentPeer?]⟩
  | false =>
      rw [readyNote_of_not_isObject _ hobject]
      exact ⟨rfl, rfl, rfl, by simp [isRunning, report, currentPeer?]⟩

theorem Attending.told (h : Attending b process c)
    (hw : notify b "initialized" (.object []) c = (.ok (), d)) :
    (d.currentPeer?.any fun p => p.isAlive && p.isReading) = true := by
  obtain ⟨hcurrent, p, hp, halive, hreading, hstays⟩ := h
  obtain ⟨i, q, acts, hi, hq, hreact, rfl⟩ := write_ok hw
  obtain rfl : process = i := Option.some.inj (hcurrent.symm.trans hi)
  obtain rfl : p = q := Option.some.inj (hp.symm.trans hq)
  let q := p.take (notification "initialized" (.object [])) false acts
  have halive : q.isAlive = true := Peer.performAll_alive halive (hstays acts hreact)
  have hreading : q.isReading = true := by
    rw [Peer.isReading, (Peer.later_take ..).2]
    exact hreading
  simpa [currentPeer?, setPeer, hcurrent, hp] using ⟨halive, hreading⟩

theorem onInitialized_cases (hi : c.initialized = false) (hcurrent : c.current = some process)
    (ticket : Nat) (value : Json) (reply : Except Failure Json) :
    Failed ticket process c (onInitialized b ticket value reply c) ∨
    Started b ticket (if isOdd reply then .error .notObject else .ok value) process c
      (onInitialized b ticket value reply c) := by
  unfold onInitialized
  split
  next e _ => exact .inl (failed_beginStop hi hcurrent ticket e)
  next result hr =>
    split
    next e after hadopt =>
      obtain rfl := adopt_error hadopt
      exact .inl (failed_beginStop hi hcurrent ticket e)
    next adopted hadopt =>
      have hobject := isObject_adopted hr hadopt
      obtain ⟨capabilities, info, -, heq⟩ := adopt_ok hadopt
      have hfinished : adopted.finished = c.finished := by rw [heq]
      have hheld : adopted.current = some process := by rw [heq]; exact hcurrent
      split
      next e after htell =>
        obtain rfl := write_error htell
        have hinitialized : after.initialized = false := by rw [heq]; exact hi
        have hreader : after.reader? = c.reader? := by rw [heq]; rfl
        exact .inl ((failed_beginStop hinitialized hheld ticket e).of_finished hfinished hreader)
      next after htell =>
        obtain ⟨hsteady, htable⟩ := table_write htell
        obtain ⟨hreported, hready, hcurrent', hrunning⟩ := becomeReady_spec ticket value after
        have hafter : after.finished = c.finished := (congrArg Table.finished htable).trans hfinished
        -- what the server is told now does not touch what it told of itself
        have hinfo : after.serverInfo = adopted.serverInfo := by
          obtain ⟨_, _, _, -, -, -, rfl⟩ := write_ok htell
          rfl
        refine .inr ⟨?_, hready, hcurrent'.trans (hsteady.held.trans hheld), fun ha => ?_⟩
        · rw [hreported, hafter, hinfo, hobject]
          cases isOdd reply <;> rfl
        · have hadopted : Attending b process adopted := by
            rw [heq]
            exact ha
          exact hrunning.trans (hadopted.told htell)

theorem beginStop_tasks (hi : c.initialized = false) (ticket : Nat) (ending : Ending) :
    (beginStop b ticket ending c).tasks = c.tasks := by
  rw [beginStop_of_uninitialized hi]
  split
  · rfl
  · exact (finishStop_reports ..).1

theorem onInitialized_tasks (hi : c.initialized = false) (ticket : Nat) (value : Json)
    (reply : Except Failure Json) : (onInitialized b ticket value reply c).tasks = c.tasks := by
  have hstop {d : Connection} (hp : d.posture = c.posture) (e : Failure) :
      (beginStop b ticket (.error e) d).tasks = c.tasks := by
    obtain ⟨hi, ht⟩ := posture_eq.mp (hp.trans (posture_eq.mpr ⟨hi, rfl⟩))
    rw [beginStop_tasks hi, ht]
  unfold onInitialized
  split
  next => exact hstop rfl _
  next result _ =>
    split
    next e after hadopt => exact hstop (posture_adopt hadopt) e
    next adopted hadopt =>
      split
      next e after htell => exact hstop ((posture_write htell).trans (posture_adopt hadopt)) e
      next after htell =>
        have htold := (posture_write htell).trans (posture_adopt hadopt)
        exact (posture_eq.mp (posture_becomeReady ticket value after)).2.trans (congrArg Prod.snd htold)

theorem Tracked.single_reply (h : Tracked account c) {t : Task} {id : Nat} (ht : c.tasks = [t])
    (hid : t.id? = some id) : c.replies = [] ∨ ∃ reply, c.replies = [(id, reply)] := by
  have hkey (r) (hr : r ∈ c.replies) : r.1 = id := by
    obtain ⟨u, hu, ha⟩ := h.awaited hr
    obtain rfl : u = t := by simpa [ht] using hu
    obtain ⟨method, hq⟩ := Stage.awaits_iff.mp ha
    exact Option.some.inj ((Task.id?_eq_some.mpr ⟨method, hq⟩).symm.trans hid)
  have hdistinct := (List.nodup_append.mp h.distinct).2.1
  match hr : c.replies with
  | [] => exact .inl rfl
  | [(k, reply)] =>
      obtain rfl : k = id := hkey (k, reply) (by simp [hr])
      exact .inr ⟨reply, rfl⟩
  | first :: second :: rest =>
      have hsame : first.1 = second.1 :=
        (hkey first (by simp [hr])).trans (hkey second (by simp [hr])).symm
      simp [hr, hsame] at hdistinct

/-- A start fails and leaves no process, at once or when its reply is taken
up, or its server was told that it is initialized. Then the server runs, as
long as its process is there, and the start returns unless what the reply
tells of the server is odd. -/
theorem start_runs_or_leaves_nothing {command : List String} {root : Path} {timeout : Seconds}
    {ownId : Nat} {c₀ : Connection} (b : Behaviour) (h : fresh command root timeout ownId = .ok c₀)
    (hm : Moves b c₀ account c) (hc : Unstarted c) (ticket : Nat) (value : Json) :
    Failed ticket c.processes.length c (beginStart b ticket value c) ∨
    ∃ id, (beginStart b ticket value c).tasks = [⟨ticket, .initializing id value⟩] ∧
      ∀ d, ReflTransGen (Listens b) (beginStart b ticket value c) d →
        d.replies = [] ∧ advance? b d = none ∨
        ∃ reply e, d.replies = [(id, reply)] ∧ advance? b d = some e ∧ e.tasks = [] ∧
          (Failed ticket c.processes.length d e ∨
            Started b ticket (if isOdd reply then .error .notObject else .ok value)
              c.processes.length d e) := by
  refine (beginStart_cases hc ticket value).imp_right fun ⟨id, hbegun, hcurrent⟩ => ?_
  refine ⟨id, posture_tasks hbegun, fun d hd => ?_⟩
  obtain ⟨_, hstart, -⟩ := moves_beginStart (b := b) (isWaiting_of_posture hc.posture ticket) value
  obtain ⟨⟨_, hheard, -⟩, hposture, hheld⟩ := quietly_listens hd
  have htracked := ((hm.trans hstart).trans hheard).tracked (.start h)
  have hp : d.posture = (false, [⟨ticket, .initializing id value⟩]) := hposture.trans hbegun
  obtain hnone | ⟨reply, hreply⟩ := htracked.single_reply (posture_tasks hp) rfl
  · refine .inl ⟨hnone, advance?_eq_none.mpr ⟨hnone, ?_⟩⟩
    simp [posture_tasks hp, hasLeft]
  -- the reply finds the start as the only task, so the start takes it up
  · let taken : Connection := ({ d with replies := [] } : Connection).dropTask ticket
    have htaken : taken.posture = (false, []) := posture_dropTask (c := { d with replies := [] }) hp
    obtain ⟨hi, ht⟩ := posture_eq.mp htaken
    have hadvance : advance? b d = some (onInitialized b ticket value reply taken) := by
      simp [advance?, hreply, posture_tasks hp, Stage.awaits, resume, taken]
    refine .inr ⟨reply, _, hreply, hadvance, (onInitialized_tasks hi ..).trans ht, ?_⟩
    obtain hfailed | hstarted :=
      onInitialized_cases (b := b) hi (hheld.trans hcurrent : taken.current = _) ticket value reply
    · exact .inl ⟨hfailed.reported, hfailed.dead, hfailed.notRunning, hfailed.released⟩
    · exact .inr ⟨hstarted.reported, hstarted.ready, hstarted.held, hstarted.running⟩

def waitingStart : Connection := beginStart silent 0 (.int 7) sampleStart

def greeted : Connection :=
  let reply := answer (.int 1) (.object [("serverInfo", .object [("name", .text "clangd")])])
  drain silent 0 2 (waitingStart.setPeer 0 fun p => p.performAll [emits reply])

theorem listens_greeted : ReflTransGen (Listens silent) waitingStart greeted := by
  unfold greeted
  exact .tail (.single (.acts 0 _)) (.reads 0 2)

theorem start_runs_or_leaves_nothing_greeted :
    fresh ["server"] ⟨.root, []⟩ (.whole 5) 1 = .ok sampleStart ∧ Unstarted sampleStart ∧
    ReflTransGen (Listens silent) waitingStart greeted ∧
    ∃ (id : Nat) (reply : Except Failure Json) (e : Connection), greeted.replies = [(id, reply)] ∧
      advance? silent greeted = some e ∧ e.tasks = [] ∧ e.isRunning = true ∧
      (Failed 0 0 greeted e ∨
        Started silent 0 (if isOdd reply then .error .notObject else .ok (.int 7)) 0 greeted e) ∧
      (e.finished.map fun r => (r.1, Ending.shown r.2)) = [(0, "7")] := by
  have hstart : fresh ["server"] ⟨.root, []⟩ (.whole 5) 1 = .ok sampleStart := rfl
  have hunstarted : Unstarted sampleStart := ⟨rfl, rfl⟩
  obtain ⟨hcurrent, hreports⟩ : waitingStart.current = some 0 ∧
      ((advance? silent greeted).map fun e =>
        (e.isRunning, e.finished.map fun r => (r.1, Ending.shown r.2))) = some (true, [(0, "7")]) := by
    decide +kernel
  obtain hfailed | ⟨id, -, hends⟩ :=
    start_runs_or_leaves_nothing silent hstart .refl hunstarted 0 (.int 7)
  · have hnone : waitingStart.current = none := hfailed.released nofun
    simp [hnone] at hcurrent
  · obtain ⟨-, hstuck⟩ | ⟨reply, e, hreply, hadvance, htasks, hcases⟩ := hends _ listens_greeted
    · simp [hstuck] at hreports
    · obtain ⟨hrunning, hfinished⟩ : e.isRunning = true ∧
          (e.finished.map fun r => (r.1, Ending.shown r.2)) = [(0, "7")] := by
        simpa [hadvance] using hreports
      exact ⟨hstart, hunstarted, listens_greeted, id, reply, e, hreply, hadvance, htasks, hrunning,
        hcases, hfinished⟩

/-- The server tells its name without an object around it. -/
def misnamed : List Event :=
  [.start 0 (.int 7),
    .output [emits (answer (.int 1) (.object [("serverInfo", .text "clangd")]))]]

/-- The start fails, but the process lives and is held, and the server
runs. -/
theorem misnamed_server_outlives_start :
    (run silent sampleStart misnamed).tasks.isEmpty = true ∧
    ((run silent sampleStart misnamed).finished.map fun r => (r.1, Ending.shown r.2)) =
      [(0, "AttributeError")] ∧
    (run silent sampleStart misnamed).isRunning = true ∧
    (run silent sampleStart misnamed).current = some 0 ∧
    (run silent sampleStart misnamed).processes.map Peer.isAlive = [true] := by
  decide +kernel

end Connection

end CodeAtlas.Wire
