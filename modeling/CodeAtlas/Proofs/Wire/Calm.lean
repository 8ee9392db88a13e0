import CodeAtlas.Proofs.Client.Spared
import CodeAtlas.Proofs.Wire.Starting
import CodeAtlas.Wire.Online

namespace CodeAtlas.Wire

open Client

theorem spared_frameOf (message : Json) : Spared (frameOf message) := by
  unfold frameOf
  split
  · exact spared_error rfl
  · split
    · exact spared_error rfl
    · split
      · exact spared_error rfl
      · exact spared_ok _

namespace Connection

variable {b : Behaviour} {c d : Connection} {ticket : Nat} {method : String} {params : Json}

theorem spared_resultOf (method : String) (reply : Json) : Spared (resultOf method reply) := by
  refine (spared_field _ reply).bind fun error => ?_
  dsimp only
  split
  · exact (spared_field _ _).bind fun _ => (spared_toInteger _).bind fun _ =>
      (spared_field _ _).bind fun _ => (spared_field _ _).bind fun _ => spared_error rfl
  · exact (spared_field _ reply).bind fun _ => spared_ok _

theorem spared_write (message : Json) (c : Connection) (answers : Bool) :
    Spared (write b message c answers).1 := by
  unfold write
  split
  · have hframe := spared_frameOf message
    split
    next e he =>
      rw [he] at hframe
      exact spared_error hframe.isFile
    next =>
      split
      · exact spared_error rfl
      · exact spared_ok ()
  · exact spared_error rfl

theorem spared_send (method : String) (params : Json) (c : Connection) :
    Spared (send b method params c).1 := by
  unfold send
  split
  · exact spared_error rfl
  · have hwrite := spared_write (b := b) (request c.nextId method params)
      (({ c with nextId := c.nextId + 1, pending := c.pending ++ [c.nextId] } : Connection).note
        .debug (sendNote method c.nextId)) false
    simp only
    split
    next => exact spared_ok _
    next e unwritten he =>
      rw [he] at hwrite
      exact spared_error hwrite.isFile

/-- Only calls wait, and no failure that is held is one of a file. -/
structure Table.Calm (t : Table) : Prop where
  calling : ∀ task ∈ t.tasks, ∃ id method, task.stage = .calling id method
  replies : ∀ r ∈ t.replies, Spared r.2
  finished : ∀ r ∈ t.finished, Spared r.2

namespace Table.Calm

variable {t : Table} (h : t.Calm)
include h

theorem write (message : Json) : (t.write message).Calm := ⟨h.calling, h.replies, h.finished⟩

theorem ask (method : String) (params : Json) : (t.ask method params).Calm :=
  ⟨h.calling, h.replies, h.finished⟩

theorem reply (id : Nat) (message : Json) : (t.reply id message).Calm :=
  ⟨h.calling, List.forall_mem_append.mpr ⟨h.replies, by simpa using spared_ok message⟩, h.finished⟩

theorem cut : t.cut.Calm := by
  refine ⟨h.calling, List.forall_mem_append.mpr ⟨h.replies, ?_⟩, h.finished⟩
  simpa using fun _ _ => spared_error rfl

theorem report (ticket : Nat) {ending : Ending} (he : Spared ending) :
    (t.report ticket ending).Calm :=
  ⟨h.calling, h.replies, List.forall_mem_append.mpr ⟨h.finished, by simpa using he⟩⟩

theorem wait (ticket id : Nat) (method : String) :
    Calm { t with tasks := t.tasks ++ [⟨ticket, .calling id method⟩] } :=
  ⟨List.forall_mem_append.mpr ⟨h.calling, by simp⟩, h.replies, h.finished⟩

theorem taken {u : Table} (htasks : u.tasks ⊆ t.tasks) (hreplies : u.replies ⊆ t.replies)
    (hfinished : u.finished ⊆ t.finished) : u.Calm :=
  ⟨fun task ht => h.calling task (htasks ht), fun r hr => h.replies r (hreplies hr),
    fun r hr => h.finished r (hfinished hr)⟩

end Table.Calm

theorem calm_breakReading (h : c.table.Calm) (i : Nat) (e : Failure) :
    (c.breakReading i e).table.Calm := by
  unfold breakReading
  split
  · exact (h.cut : ((c.note _ _).endReading i .finished).table.Calm)
  · exact (h.cut : (c.endReading i (.died e)).table.Calm)

theorem calm_dispatch (h : c.table.Calm) {message : Json} {outcome : Except Failure Unit}
    (hd : dispatch b message c = (outcome, d)) : d.table.Calm := by
  obtain ⟨-, ⟨id, -, -, htable⟩ | ⟨n, -, -, -, htable⟩ | ⟨-, -, htable⟩⟩ := dispatch_cases hd
  · exact htable ▸ h.write _
  · exact htable ▸ h.reply n message
  · exact htable ▸ h

theorem calm_drainAll (h : c.table.Calm) : (drainAll b c).table.Calm := by
  refine drainAll_induction (P := fun c => c.table.Calm) (fun i bound c hc => ?_) h
  refine drain_induction (P := fun c => c.table.Calm) (fun c hc => hc.cut)
    (fun c e hc => calm_breakReading hc i e) (fun {c _ _ rest _} hd hc => ?_) bound hc
  have htaken : (c.setPeer i fun p => { p with output := rest }).table.Calm := hc
  exact calm_dispatch htaken hd

theorem calm_advance (h : c.table.Calm) (ha : advance? b c = some d) : d.table.Calm := by
  unfold advance? at ha
  split at ha
  next id reply rest hreplies =>
    have hheld : ∀ r ∈ (id, reply) :: rest, Spared r.2 := hreplies ▸ h.replies
    have hrest : rest ⊆ c.replies := hreplies ▸ List.subset_cons_self (id, reply) rest
    simp only at ha
    split at ha
    next =>
      obtain rfl := Option.some.inj ha
      exact h.taken (List.Subset.refl _) hrest (List.Subset.refl _)
    next t hsome =>
      obtain rfl := Option.some.inj ha
      obtain ⟨n, method, hstage⟩ := h.calling t (List.mem_of_find?_eq_some hsome)
      rw [resume, hstage]
      have htasks : c.tasks.filter (fun u => u.ticket != t.ticket) ⊆ c.tasks :=
        List.filter_subset_self _
      have hdropped : (({ c with replies := rest } : Connection).dropTask t.ticket).table.Calm :=
        h.taken htasks hrest (List.Subset.refl _)
      exact hdropped.report t.ticket
        ((hheld _ List.mem_cons_self).bind fun reply => spared_resultOf method reply)
  next =>
    -- no call waits for the end of a process
    obtain ⟨t, hsome, -⟩ := Option.map_eq_some_iff.mp ha
    obtain ⟨n, method, hstage⟩ := h.calling t (List.mem_of_find?_eq_some hsome)
    have hleft := List.find?_some hsome
    simp [hstage, hasLeft] at hleft

theorem calm_settle (h : c.table.Calm) : (settle b c).table.Calm :=
  settle_induction (P := fun c => c.table.Calm) calm_drainAll (fun ha hc => calm_advance hc ha) h

theorem calm_request (h : c.table.Calm) (ticket : Nat) (method : String) (params : Json) :
    (step b c (.request ticket method params)).table.Calm := by
  refine calm_settle (?_ : (beginRequest b ticket method params c).table.Calm)
  unfold beginRequest
  split
  · exact h.report ticket (spared_error rfl)
  · have hsend := spared_send (b := b) method params c
    split
    next e after he =>
      obtain ⟨-, n, -, htable⟩ := send_error he
      rw [he] at hsend
      have hafter : after.table.Calm := htable ▸ ⟨h.calling, h.replies, h.finished⟩
      exact hafter.report ticket (spared_error hsend.isFile)
    next id after hid =>
      obtain ⟨-, -, -, htable⟩ := send_ok hid
      have hafter : after.table.Calm := htable ▸ h.ask method params
      exact hafter.wait ticket id method

theorem calm_notify (h : c.table.Calm) (ticket : Nat) (method : String) (params : Json) :
    (step b c (.notify ticket method params)).table.Calm := by
  refine calm_settle (?_ : (doNotify b ticket method params c).table.Calm)
  have hwrite := spared_write (b := b) (notification method params) c false
  unfold doNotify notify
  split
  next e after he =>
    obtain rfl := write_error he
    rw [he] at hwrite
    exact h.report ticket (spared_error hwrite.isFile)
  next after hok =>
    obtain ⟨-, htable⟩ := table_write hok
    have hafter : after.table.Calm := htable ▸ h.write _
    exact hafter.report ticket (spared_ok Json.null)

theorem calm_output (h : c.table.Calm) (acts : List Act) : (step b c (.output acts)).table.Calm :=
  have hacted : (c.setPeer (c.processes.length - 1) fun p => p.performAll acts).table.Calm := h
  calm_settle hacted

def Opening (ticket : Nat) (c : Connection) : Prop :=
  c.tasks = [] ∨
    ∃ id value, c.posture = (false, [⟨ticket, .initializing id value⟩]) ∧ c.finished = []

theorem finished_drainAll (c : Connection) : (drainAll b c).finished = c.finished := by
  refine drainAll_induction (P := fun d => d.finished = c.finished) (fun i bound d hd => ?_) rfl
  refine drain_induction (P := fun d => d.finished = c.finished) (fun _ h => h) (fun d e h => ?_)
    (fun heard h => ?_) bound hd
  · unfold breakReading
    split <;> exact h
  · obtain ⟨-, ⟨_, -, -, htable⟩ | ⟨_, -, -, -, htable⟩ | ⟨-, -, htable⟩⟩ := dispatch_cases heard
    all_goals exact (congrArg Table.finished htable).trans h

theorem opening_beginStart (hp : c.posture = (false, [])) (hf : c.finished = []) (value : Json) :
    Opening ticket (beginStart b ticket value c) := by
  unfold beginStart
  split
  next => exact .inl (posture_tasks hp)
  next =>
    simp only
    split
    next e after hsend =>
      obtain ⟨hi, ht⟩ := posture_eq.mp ((posture_send hsend).trans hp)
      exact .inl ((beginStop_tasks hi ..).trans ht)
    next id after hsend =>
      obtain ⟨-, -, -, htable⟩ := send_ok hsend
      have hfinished : after.finished = [] := (congrArg Table.finished htable).trans hf
      exact .inr ⟨id, value, posture_wait ((posture_send hsend).trans hp) .., hfinished⟩

theorem Opening.drainAll (h : Opening ticket c) : Opening ticket (drainAll b c) := by
  obtain ht | ⟨id, value, hp, hf⟩ := h
  · exact .inl ((congrArg Prod.snd (posture_drainAll c)).trans ht)
  · exact .inr ⟨id, value, (posture_drainAll c).trans hp, (finished_drainAll c).trans hf⟩

theorem Opening.advance (h : Opening ticket c) (ha : advance? b c = some d) : Opening ticket d := by
  have alone {t : Task} (hmem : t ∈ c.tasks) : ∃ id value, t = ⟨ticket, .initializing id value⟩ ∧
      c.posture = (false, [t]) := by
    obtain ht | ⟨id, value, hp, -⟩ := h
    · simp [ht] at hmem
    · obtain rfl : t = ⟨ticket, .initializing id value⟩ := by simpa [posture_tasks hp] using hmem
      exact ⟨id, value, rfl, hp⟩
  unfold advance? at ha
  split at ha
  next n reply rest _ =>
    simp only at ha
    split at ha
    next =>
      obtain rfl := Option.some.inj ha
      exact h
    next t hsome =>
      obtain rfl := Option.some.inj ha
      obtain ⟨id, value, rfl, hp⟩ := alone (List.mem_of_find?_eq_some hsome)
      have htaken : (({ c with replies := rest } : Connection).dropTask ticket).posture =
          (false, []) := posture_dropTask (c := { c with replies := rest }) hp
      obtain ⟨hi, hnone⟩ := posture_eq.mp htaken
      exact .inl ((onInitialized_tasks hi ..).trans hnone)
  next =>
    obtain ⟨t, hsome, -⟩ := Option.map_eq_some_iff.mp ha
    obtain ⟨id, value, rfl, -⟩ := alone (List.mem_of_find?_eq_some hsome)
    have hleft := List.find?_some hsome
    simp [hasLeft] at hleft

theorem calm_step_start {command : List String} {root : Path} {timeout : Seconds} {ownId : Nat}
    (h : fresh command root timeout ownId = .ok c) {value : Json} {ending : Ending}
    (hreport : (step b c (.start ticket value)).finished.lookup ticket = some ending)
    (log : List LogEntry) :
    ({ step b c (.start ticket value) with finished := [], log } : Connection).table.Calm := by
  have hfresh := fresh_ok h
  have hp : c.posture = (false, []) := by rw [hfresh]; rfl
  have hf : c.finished = [] := by rw [hfresh]
  obtain ⟨account, hm, -⟩ := moves_step (b := b) (e := .start ticket value)
    fun _ _ => isWaiting_of_posture hp _
  have htracked := hm.tracked (.start h)
  obtain ht | ⟨_, _, -, hnone⟩ : Opening ticket (step b c (.start ticket value)) :=
    settle_induction (P := Opening ticket) Opening.drainAll (fun ha hd => hd.advance ha)
      (opening_beginStart hp hf value)
  · refine ⟨by simp [table, ht], fun ⟨id, reply⟩ hr => ?_, by simp [table]⟩
    obtain ⟨t, hmem, -⟩ := htracked.awaited hr
    simp [ht] at hmem
  · simp [hnone] at hreport

end Connection

namespace Online

variable {b : Behaviour} {s : Online}

/-- The state of a client whose start has returned, however it was used since,
whatever the server did on its own, and whatever became of the files. -/
inductive InUse (b : Behaviour) : Online → Prop
  | started {command : List String} {root : Path} {timeout : Seconds} {ownId : Nat}
      {connection : Connection} {value : Json} {disk : Disk}
      (h : Connection.fresh command root timeout ownId = .ok connection)
      (hstart : (turn b (fun ticket => .start ticket .null) (start connection disk)).result =
        .ok value) :
      InUse b (turn b (fun ticket => .start ticket .null) (start connection disk)).world
  | requests {s : Online} (h : InUse b s) (method : String) (params : Json) :
      InUse b (turn b (fun ticket => .request ticket method params) s).world
  | notifies {s : Online} (h : InUse b s) (method : String) (params : Json) :
      InUse b (turn b (fun ticket => .notify ticket method params) s).world
  | hears {s : Online} (h : InUse b s) (acts : List Act) :
      InUse b { s with connection := s.connection.step b (.output acts) }
  | shifts {s : Online} (h : InUse b s) (disk : Disk) : InUse b { s with disk }

theorem calm_quiet {c : Connection} (h : c.table.Calm) :
    ({ c with finished := [], log := [] } : Connection).table.Calm :=
  h.taken (List.Subset.refl _) (List.Subset.refl _) (List.nil_subset _)

theorem InUse.calm (h : InUse b s) : s.connection.table.Calm := by
  induction h with
  | @started _ _ _ _ connection _ disk h hstart =>
      cases hreport : (connection.step b (.start 1 .null)).finished.lookup 1 with
      | none => simp [turn, start, hreport] at hstart
      | some ending => exact Connection.calm_step_start h hreport []
  | requests _ method params ih => exact calm_quiet (Connection.calm_request ih _ method params)
  | notifies _ method params ih => exact calm_quiet (Connection.calm_notify ih _ method params)
  | hears _ acts ih => exact Connection.calm_output ih acts
  | shifts _ disk ih => exact ih

/-- A world whose files are anything at any time. -/
def shifting (b : Behaviour) (env : Environment) (cwd : List String)
    (files : Path → Online → Except Failure (List UInt8) × Disk) : World Online :=
  { world b env cwd with
    readFile := fun path s => ((files path s).1, { s with disk := (files path s).2 }) }

example (b : Behaviour) (env : Environment) (cwd : List String) :
    shifting b env cwd (fun path s => (s.disk.read cwd path, s.disk)) = world b env cwd := rfl

theorem served_shifting (b : Behaviour) (env : Environment) (cwd : List String)
    (files : Path → Online → Except Failure (List UInt8) × Disk) :
    Served (InUse b) (shifting b env cwd files) where
  request method params _ h := h.requests method params
  notify method params _ h := h.notifies method params
  readFile path s h := h.shifts (files path s).2
  spared params s h := by
    have hcalm := Connection.calm_request (b := b) h.calm s.nextTicket implementationMethod params
    show Spared (turn b (fun ticket => .request ticket implementationMethod params) s).result
    cases hreport : ((s.connection.step b
        (.request s.nextTicket implementationMethod params)).finished.lookup s.nextTicket) with
    | none =>
        rw [turn, hreport]
        exact spared_error rfl
    | some ending =>
        obtain ⟨before, after, hfinished, -⟩ := List.lookup_eq_some_iff.mp hreport
        rw [turn, hreport]
        exact hcalm.finished (s.nextTicket, ending) (by simp [Connection.table, hfinished])

end Online

end CodeAtlas.Wire
