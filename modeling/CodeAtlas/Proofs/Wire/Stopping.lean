import CodeAtlas.Proofs.Wire.Replies
import Mathlib.Data.List.Perm.Subperm

namespace CodeAtlas.Wire

def Stage.stops? : Stage → Option Nat
  | .shuttingDown _ process _ | .leaving process _ => some process
  | _ => none

theorem Stage.isTimed_of_stops {s : Stage} {i : Nat} (h : s.stops? = some i) : s.isTimed = true := by
  cases s <;> simp [stops?, isTimed] at h ⊢

namespace Connection

variable {b : Behaviour} {c d : Connection} {P : Nat → Prop} {ticket i : Nat}
  {account incidents : List Incident}

/-- A message that breaks the reader: no object, or a reply whose id cannot
be looked up. -/
def isStray : Json → Bool
  | .object fields =>
    (fields.lookup "method").isNone && isCompound ((fields.lookup "id").getD .null)
  | _ => true

theorem frameOf_error {message : Json} {e : Failure} (h : frameOf message = .error e) :
    e.isRefusal = true := by
  unfold frameOf at h
  split at h
  next => exact Except.error.inj h ▸ rfl
  next =>
    split at h
    next => exact Except.error.inj h ▸ rfl
    next =>
      split at h
      next => exact Except.error.inj h ▸ rfl
      next => simp at h

theorem isStray_of_dispatch {message : Json} {e : Failure} (h : dispatch b message c = (.error e, d))
    (he : (e.isService || e.isRefusal) = false) : isStray message = true := by
  cases message with
  | object fields =>
      cases hm : fields.lookup "method" with
      | none =>
          simp only [dispatch, hm] at h
          simp [isStray, hm, deliver_error h]
      | some method =>
          cases hid : fields.lookup "id" with
          | none => simp [dispatch, hm, hid] at h
          | some id =>
              simp only [dispatch, hm, hid] at h
              -- an answer that is not sent fails in a way that the reading expects
              obtain hframe | rfl | ⟨_, _, _, -, rfl⟩ := write_failure h
              · simp [frameOf_error hframe] at he
              · simp [Failure.isService] at he
              · simp [Failure.isService] at he
  | _ => rfl

def readerAt (i : Nat) (c : Connection) : Option Reader := c.processes[i]?.map Peer.reader

theorem reader?_readerAt {reader : Reader} (h : c.reader? = some reader) :
    ∃ i, readerAt i c = some reader := by
  obtain ⟨i, p, -, hp, hr⟩ := reader?_eq_some.mp h
  exact ⟨i, by simp [readerAt, hp, hr]⟩

theorem readerAt_endReading {reader : Reader} {e : Failure} {j : Nat}
    (h : readerAt i (c.endReading j reader) = some (.died e)) :
    reader = .died e ∨ readerAt i c = some (.died e) := by
  by_cases hij : j = i
  · simp only [readerAt, endReading, failPending, setPeer, List.getElem?_modify, hij, if_true,
      Option.map_eq_map, Option.map_map, Option.map_eq_some_iff] at h
    obtain ⟨p, -, hr⟩ := h
    exact .inl hr
  · refine .inr ?_
    rw [← h]
    simp [readerAt, endReading, failPending, setPeer, hij]

theorem readerAt_killed (process : Nat) : readerAt i (killed process c) = readerAt i c := by
  by_cases hi : process = i
  · cases hp : c.processes[i]? <;> simp [readerAt, killed, setPeer, hi, hp, Peer.kill_reader]
  · simp [readerAt, killed, setPeer, hi]

theorem Move.died (h : Move b c incidents d) {e : Failure} (hd : readerAt i d = some (.died e)) :
    readerAt i c = some (.died e) ∨ ∃ message, .heard message ∈ incidents ∧ isStray message = true := by
  have steady (hs : Steady c d) : readerAt i c = some (.died e) := (hs.readers i).symm.trans hd
  cases h with
  | acts j acts =>
      exact .inl (steady (steady_acts j acts c))
  | records | discards | awaitsEnd | seesEnd | drops | reorders =>
      exact .inl (steady (.of_eq rfl rfl))
  | launches hl =>
      left
      rw [readerAt, List.getElem?_append] at hd
      split at hd
      next => exact hd
      next =>
        obtain ⟨p, hp, hr⟩ := Option.map_eq_some_iff.mp hd
        obtain rfl := List.mem_singleton.mp (List.mem_of_getElem? hp)
        simp [Peer.fresh] at hr
  | asks hsend hq hfree => exact .inl (steady ((send_ok hsend).2.2.1.trans (.of_eq rfl rfl)))
  | asksInVain hsend => exact .inl (steady (send_error hsend).1)
  | tells hw => exact .inl (steady (table_write hw).1)
  | @hears _ j _ _ rest _ hp hr hn hnull hdisp =>
      exact .inl (steady ((steady_taken j rest c).trans (dispatch_cases hdisp).1))
  | closes hp hr => exact .inl ((readerAt_endReading hd).resolve_left Reader.noConfusion)
  | @dies _ j _ message rest e' hp hr hn hnull hdisp he =>
      exact .inr ⟨message, by simp [hearing], isStray_of_dispatch hdisp he⟩
  | stops ticket process ending =>
      left
      obtain ⟨_, -, heq⟩ | ⟨j, -, -, heq⟩ | ⟨-, heq⟩ := finishStop_cases ticket process ending c
      all_goals rw [heq] at hd
      · exact (readerAt_killed process).symm.trans hd
      · exact (readerAt_killed process).symm.trans
          ((readerAt_endReading hd).resolve_left Reader.noConfusion)
      · exact (readerAt_killed process).symm.trans hd
  | completes | breaks =>
      unfold handOver at hd
      split at hd <;> exact .inl hd

theorem Moves.died (h : Moves b c account d) {e : Failure} (hd : readerAt i d = some (.died e)) :
    readerAt i c = some (.died e) ∨ ∃ message, .heard message ∈ account ∧ isStray message = true := by
  induction h with
  | refl => exact .inl hd
  | tail _ last ih =>
      obtain hd | ⟨message, hm, hstray⟩ := last.died hd
      · exact (ih hd).imp_right fun ⟨message, hm, hstray⟩ =>
          ⟨message, List.mem_append_left _ hm, hstray⟩
      · exact .inr ⟨message, List.mem_append_right _ hm, hstray⟩

/-- What a stop leaves when it has reported. -/
structure Stopped (ticket i : Nat) (c : Connection) : Prop where
  done : c.isWaiting ticket = false
  dead : Dead i c
  outcome : (c.current = none ∧ ∃ ending, (ticket, ending) ∈ c.finished) ∨
    ∃ e, c.reader? = some (.died e) ∧ (ticket, .error e) ∈ c.finished

theorem Stopped.reported (h : Stopped ticket i c) : ∃ ending, (ticket, ending) ∈ c.finished := by
  obtain ⟨-, hmem⟩ | ⟨e, -, hmem⟩ := h.outcome
  · exact hmem
  · exact ⟨_, hmem⟩

theorem Stopped.notReading (h : Stopped ticket i c) : c.isReading = false := by
  obtain ⟨hnone, -⟩ | ⟨e, hr, -⟩ := h.outcome
  · simp [isReading, currentPeer?, hnone]
  · exact notReading_iff.mpr (by simp [hr])

theorem Stopped.goes (h : Stopped ticket i c) (hg : Goes b P c d) (hP : ¬ P ticket) :
    Stopped ticket i d where
  done := hg.idle h.done hP
  dead := hg.wanes.dead h.dead
  outcome := by
    obtain ⟨hnone, ending, hmem⟩ | ⟨e, hdied, hmem⟩ := h.outcome
    · refine .inl ⟨?_, ending, hg.finished_subset hmem⟩
      obtain hd | hd := hg.wanes.current
      · exact hd.trans hnone
      · exact hd
    · obtain hd | ⟨-, hd⟩ := hg.wanes.died hdied
      · exact .inl ⟨hd, _, hg.finished_subset hmem⟩
      · exact .inr ⟨e, hd, hg.finished_subset hmem⟩

theorem stopped_finishStop (hfree : c.isWaiting ticket = false) (ending : Ending) :
    Stopped ticket i (finishStop ticket i ending c) where
  done := (isWaiting_eq_of_tasks (finishStop_reports ticket i ending c).1).trans hfree
  dead := dead_finishStop ticket i ending c
  outcome := by
    obtain ⟨e, hr, heq⟩ | ⟨_, -, -, heq⟩ | ⟨-, heq⟩ := finishStop_cases ticket i ending c
    · exact heq ▸ .inr ⟨e, (reader?_killed i c).trans hr, by simp [report]⟩
    · exact heq ▸ .inl ⟨rfl, ending, by simp [letGo, report]⟩
    · exact heq ▸ .inl ⟨rfl, ending, by simp [letGo, report]⟩

theorem stopped_finishUnclean (hfree : c.isWaiting ticket = false) (e : Failure) (ending : Ending) :
    Stopped ticket i (finishUnclean ticket i e ending c) := by
  unfold finishUnclean
  split
  · exact stopped_finishStop (c := c.note .warning (uncleanNote e)) hfree ending
  · exact stopped_finishStop hfree (.error e)

def Stopping (ticket i : Nat) (c : Connection) : Prop :=
  (∃ stage, ⟨ticket, stage⟩ ∈ c.tasks ∧ stage.stops? = some i) ∨ Stopped ticket i c

theorem Stopping.goes (h : Stopping ticket i c) (hg : Goes b P c d) (hP : ¬ P ticket) :
    Stopping ticket i d := by
  obtain ⟨stage, hmem, hstage⟩ | h := h
  · exact .inl ⟨stage, hg.stays hmem hP, hstage⟩
  · exact .inr (h.goes hg hP)

theorem Stopping.stopped (h : Stopping ticket i c) (hdone : c.isWaiting ticket = false) :
    Stopped ticket i c := by
  obtain ⟨stage, hmem, -⟩ | h := h
  · have hwaits : c.isWaiting ticket = true := isWaiting_iff.mpr ⟨_, hmem, rfl⟩
    simp [hwaits] at hdone
  · exact h

theorem stopping_expire {stage : Stage} (hstage : stage.stops? = some i) (c : Connection) :
    Stopping ticket i (expire ⟨ticket, stage⟩ c) := by
  have hfree := isWaiting_dropTask ticket c
  cases stage with
  | initializing | calling => simp [Stage.stops?] at hstage
  | leaving process ending =>
      obtain rfl : process = i := by simpa [Stage.stops?] using hstage
      exact .inr (stopped_finishUnclean hfree ..)
  | shuttingDown id process ending =>
      obtain rfl : process = i := by simpa [Stage.stops?] using hstage
      exact .inr (stopped_finishUnclean (c := (c.dropTask ticket).forget id) hfree ..)

theorem stopping_beginStop (hi : c.current = some i) (hfree : c.isWaiting ticket = false)
    (ending : Ending) : Stopping ticket i (beginStop b ticket ending c) := by
  unfold beginStop
  rw [hi]
  simp only
  split
  next => exact .inr (stopped_finishStop hfree ending)
  next =>
    split
    next => exact .inr (stopped_finishUnclean hfree ..)
    next =>
      split
      next e after h =>
        obtain ⟨-, n, -, ht⟩ := send_error h
        have hafter : after.isWaiting ticket = false :=
          (isWaiting_eq_of_tasks (congrArg Table.tasks ht)).trans hfree
        exact .inr (stopped_finishUnclean hafter ..)
      next id after h =>
        split
        next => exact stopping_expire rfl _
        next => exact .inl ⟨_, List.mem_append_right _ (List.mem_singleton_self _), rfl⟩

theorem stopping_resume {stage : Stage} (hstage : stage.stops? = some i)
    (hfree : c.isWaiting ticket = false) (reply : Except Failure Json) :
    Stopping ticket i (resume b ⟨ticket, stage⟩ reply c) := by
  cases stage with
  | initializing | calling => simp [Stage.stops?] at hstage
  | leaving process ending =>
      obtain rfl : process = i := by simpa [Stage.stops?] using hstage
      exact .inr (stopped_finishStop hfree ending)
  | shuttingDown id process ending =>
      obtain rfl : process = i := by simpa [Stage.stops?] using hstage
      simp only [resume]
      split
      next =>
        unfold askToExit
        split
        next e after h =>
          obtain rfl := write_error h
          exact .inr (stopped_finishUnclean hfree ..)
        next after h => exact .inl ⟨_, List.mem_append_right _ (List.mem_singleton_self _), rfl⟩
      next => exact .inr (stopped_finishUnclean hfree ..)

theorem Goes.tickets (h : Goes b P c d) (hc : (c.tasks.map Task.ticket).Nodup) :
    (d.tasks.map Task.ticket).Nodup := by
  obtain ⟨account, hm, -⟩ := h
  exact hm.tickets hc

structure Underway (ticket i : Nat) (c : Connection) : Prop where
  tickets : (c.tasks.map Task.ticket).Nodup
  stopping : Stopping ticket i c

theorem Underway.goes (h : Underway ticket i c) (hg : Goes b P c d) (hP : ¬ P ticket) :
    Underway ticket i d :=
  ⟨hg.tickets h.tickets, h.stopping.goes hg hP⟩

theorem Underway.stage (h : Underway ticket i c) {t : Task} (ht : t ∈ c.tasks)
    (hticket : t.ticket = ticket) : ∃ stage, t = ⟨ticket, stage⟩ ∧ stage.stops? = some i := by
  obtain ⟨stage, hmem, hstage⟩ | hstopped := h.stopping
  · exact ⟨stage, List.inj_on_of_nodup_map h.tickets ht hmem hticket, hstage⟩
  · have hwaits : c.isWaiting ticket = true := isWaiting_iff.mpr ⟨t, ht, hticket⟩
    simp [hstopped.done] at hwaits

theorem Underway.advance (h : Underway ticket i c) (hd : advance? b c = some d) :
    Underway ticket i d := by
  refine ⟨(goes_advance? hd).tickets h.tickets, ?_⟩
  obtain hgoes | ⟨t, ht, hgoes, reply, rest, heq⟩ := advance_cases hd
  · exact h.stopping.goes hgoes not_false
  · by_cases hticket : t.ticket = ticket
    · obtain ⟨stage, rfl, hstage⟩ := h.stage ht hticket
      exact heq ▸ stopping_resume hstage (isWaiting_dropTask ..) reply
    · exact h.stopping.goes hgoes (Ne.symm hticket)

theorem Underway.settle (h : Underway ticket i c) : Underway ticket i (settle b c) :=
  settle_induction
    (fun {d} hd => hd.goes ((quietly_drainAll d).goes (P := fun _ => False)) not_false)
    (fun hadvance hd => hd.advance hadvance) h

theorem Underway.deadline (h : Underway ticket i c) {t : Task} (ht : t ∈ c.tasks)
    (htimed : t.stage.isTimed = true) : Underway ticket i (Connection.settle b (expire t c)) := by
  have hexpire : Goes b (· = t.ticket) c (expire t c) := goes_expire ht htimed rfl
  refine Underway.settle ⟨hexpire.tickets h.tickets, ?_⟩
  by_cases hticket : t.ticket = ticket
  · obtain ⟨stage, rfl, hstage⟩ := h.stage ht hticket
    exact stopping_expire hstage c
  · exact h.stopping.goes hexpire (Ne.symm hticket)

theorem Underway.awaitWithin (h : Underway ticket i c) (other bound : Nat) :
    Underway ticket i (awaitWithin b other bound c) := by
  induction bound generalizing c with
  | zero => exact h
  | succ bound ih =>
      unfold Connection.awaitWithin
      split
      next => exact h
      next =>
        split
        next => exact h
        next t hsome =>
          have htimed : t.stage.isTimed = true := by simpa using List.find?_some hsome
          exact ih (h.deadline (List.mem_of_find?_eq_some hsome) htimed)

theorem Underway.step (h : Underway ticket i c) {e : Event} (hstart : e.isStart = false)
    (hother : e.ticket? ≠ some ticket)
    (hfree : ∀ other, e.ticket? = some other → c.isWaiting other = false) :
    Underway ticket i (step b c e) := by
  cases e with
  | start => simp [Event.isStart] at hstart
  | stop other =>
      have hbegun : Goes b (· = other) c (beginStop b other (.ok .null) c) :=
        goes_beginStop (hfree other rfl) _ rfl
      exact (h.goes hbegun fun heq => hother (congrArg some heq.symm)).settle.awaitWithin ..
  | request other method params =>
      obtain ⟨account, hm, hP, -⟩ := moves_beginRequest (b := b) (hfree other rfl) method params
      have hbegun : Goes b (· = other) c (beginRequest b other method params c) := ⟨account, hm, hP⟩
      exact (h.goes hbegun fun heq => hother (congrArg some heq.symm)).settle
  | notify other method params =>
      exact (h.goes (goes_doNotify (P := fun _ => False) other method params c) not_false).settle
  | output acts =>
      have hacts : Goes b (fun _ => False) c _ := (Move.acts c (c.processes.length - 1) acts).goes
      exact (h.goes hacts not_false).settle

theorem Underway.run (h : Underway ticket i c) {events : List Event} (ha : Admissible c events)
    (hstart : ∀ e ∈ events, e.isStart = false) (hother : ∀ e ∈ events, e.ticket? ≠ some ticket) :
    Underway ticket i (run b c events) := by
  induction events generalizing c with
  | nil => exact h
  | cons e events ih =>
      obtain ⟨hfree, hnext⟩ := ha.next (b := b)
      obtain ⟨hs, hstarts⟩ := List.forall_mem_cons.mp hstart
      obtain ⟨ho, hothers⟩ := List.forall_mem_cons.mp hother
      exact ih (h.step hs ho hfree) hnext hstarts hothers

theorem Goes.tasks_le (h : Goes b (fun ticket => c.isWaiting ticket = true) c d)
    (hc : (c.tasks.map Task.ticket).Nodup) : d.tasks.length ≤ c.tasks.length := by
  have hsub : d.tasks.map Task.ticket ⊆ c.tasks.map Task.ticket := fun ticket hmem => by
    obtain ⟨t, ht, rfl⟩ := List.mem_map.mp hmem
    obtain ⟨u, hu, hticket⟩ := isWaiting_iff.mp ((h.waits (isWaiting_iff.mpr ⟨t, ht, rfl⟩)).elim id id)
    exact List.mem_map.mpr ⟨u, hu, hticket⟩
  simpa using (List.subperm_of_subset (h.tickets hc) hsub).length_le

theorem expire_tasks {t : Task} (htimed : t.stage.isTimed = true) (c : Connection) :
    (expire t c).tasks = c.tasks.filter fun u => u.ticket != t.ticket := by
  have hunclean (process : Nat) (e : Failure) (ending : Ending) (c : Connection) :
      (finishUnclean t.ticket process e ending c).tasks = c.tasks := by
    unfold finishUnclean
    split <;> exact (finishStop_reports ..).1
  unfold expire
  split
  next => exact hunclean ..
  next => exact hunclean ..
  next h h' => cases hs : t.stage <;> simp_all [Stage.isTimed]

theorem Underway.over {bound : Nat} (h : Underway ticket i c) (hbound : c.tasks.length ≤ bound) :
    Stopped ticket i (Connection.awaitWithin b ticket bound c) := by
  induction bound generalizing c with
  | zero =>
      have hnone : c.tasks = [] := List.eq_nil_of_length_eq_zero (Nat.le_zero.mp hbound)
      exact h.stopping.stopped (by simp [isWaiting, hnone])
  | succ bound ih =>
      unfold Connection.awaitWithin
      split
      next hdone => exact h.stopping.stopped (by simpa using hdone)
      next =>
        split
        next hnone =>
          -- a stop that waits has a deadline itself
          obtain ⟨stage, hmem, hstage⟩ | hstopped := h.stopping
          · have htimed := List.find?_eq_none.mp hnone _ hmem
            simp [Stage.isTimed_of_stops hstage] at htimed
          · exact hstopped
        next t hsome =>
          have ht : t ∈ c.tasks := List.mem_of_find?_eq_some hsome
          have htimed : t.stage.isTimed = true := by simpa using List.find?_some hsome
          have hexpire : Goes b (· = t.ticket) c (expire t c) := goes_expire ht htimed rfl
          have hless : (expire t c).tasks.length < c.tasks.length := by
            rw [expire_tasks htimed]
            exact List.length_filter_lt_length_iff_exists.mpr ⟨t, ht, by simp⟩
          have hle := (goes_settle (b := b) (expire t c)).tasks_le (hexpire.tickets h.tickets)
          exact ih (h.deadline ht htimed) (by omega)

/-- A stop, when other things happen before its deadlines pass. -/
def stopAmid (b : Behaviour) (ticket : Nat) (events : List Event) (c : Connection) : Connection :=
  Connection.await b ticket
    (Connection.run b (Connection.settle b (beginStop b ticket (.ok .null) c)) events)

example (ticket : Nat) (c : Connection) : step b c (.stop ticket) = stopAmid b ticket [] c := rfl

theorem goes_stopBegun (hfree : c.isWaiting ticket = false) :
    Goes b (fun other => c.isWaiting other = true ∨ ticket = other) c
      (Connection.settle b (beginStop b ticket (.ok .null) c)) := by
  have hbegun : Goes b (fun other => (Event.stop ticket).ticket? = some other) c _ :=
    goes_beginStop hfree (.ok .null) rfl
  exact hbegun.settled.mono fun other h => h.imp_right Option.some.inj

theorem Admissible.stopBegun {events : List Event} (h : Admissible c (.stop ticket :: events)) :
    Admissible (Connection.settle b (beginStop b ticket (.ok .null) c)) events := by
  obtain ⟨hfree, hnot⟩ := h.head (e := .stop ticket) rfl
  obtain ⟨account, hm, hP⟩ := goes_stopBegun (b := b) hfree
  refine h.tail.moves hm fun i hi other ht => ?_
  obtain hwaits | rfl := (hP i hi).2 other ht
  · exact .inl hwaits
  · exact .inr hnot

theorem goes_stopAmid {events : List Event} (h : Admissible c (.stop ticket :: events))
    (hstart : ∀ e ∈ events, e.isStart = false) :
    Goes b (fun _ => True) c (stopAmid b ticket events c) := by
  have hbegun := goes_stopBegun (b := b) (h.head (e := .stop ticket) rfl).1
  have hrun := goes_run (b := b) (h.stopBegun (b := b)) hstart
  refine ((hbegun.mono fun _ _ => trivial).trans hrun).trans ?_
  exact (goes_awaitWithin ..).mono fun _ _ => trivial

theorem settled_stopAmid (events : List Event) (c : Connection) :
    Settled b (stopAmid b ticket events c) := (settled_run (settled_settle _)).awaitWithin ..

theorem stopped_stopAmid {events : List Event} (hi : c.current = some i)
    (hc : (c.tasks.map Task.ticket).Nodup) (h : Admissible c (.stop ticket :: events))
    (hstart : ∀ e ∈ events, e.isStart = false) : Stopped ticket i (stopAmid b ticket events c) := by
  obtain ⟨hfree, hnot⟩ := h.head (e := .stop ticket) rfl
  have hbegun : Goes b (· = ticket) c (beginStop b ticket (.ok .null) c) := goes_beginStop hfree _ rfl
  have hunderway : Underway ticket i (beginStop b ticket (.ok .null) c) :=
    ⟨hbegun.tickets hc, stopping_beginStop hi hfree _⟩
  have hother : ∀ e ∈ events, e.ticket? ≠ some ticket := fun e he ht =>
    hnot (List.mem_filterMap.mpr ⟨e, he, ht⟩)
  exact (hunderway.settle.run h.stopBegun hstart hother).over (by omega)

def Newest (c : Connection) : Prop := ∀ i, c.current = some i → i + 1 = c.processes.length

theorem Wanes.newest (h : Wanes c d) (hc : Newest c) : Newest d := by
  intro i hi
  rw [h.count]
  obtain hcurrent | hcurrent := h.current
  · exact hc i (hcurrent ▸ hi)
  · simp [hcurrent] at hi

theorem Move.newest (h : Move b c incidents d) (hc : Newest c) : Newest d := by
  by_cases hl : .launched ∈ incidents
  · obtain ⟨-, rfl⟩ := h.launched hl
    intro i hi
    obtain rfl : c.processes.length = i := Option.some.inj hi
    simp
  · exact (h.wanes hl).newest hc

theorem Moves.newest (h : Moves b c account d) (hc : Newest c) : Newest d := by
  induction h with
  | refl => exact hc
  | tail _ last ih => exact last.newest ih

theorem Moves.current_lt (h : Moves b c account d) (hc : c.current = none) :
    ∀ i, d.current = some i → i < d.processes.length := fun i hi =>
  Nat.lt_of_succ_le (Nat.le_of_eq (h.newest (fun j hj => by simp [hc] at hj) i hi))

theorem step_stop_of_none (hs : Settled b c) (hcurrent : c.current = none)
    (hfree : c.isWaiting ticket = false) : step b c (.stop ticket) = c.report ticket (.ok .null) := by
  have hbegun : beginStop b ticket (.ok .null) c = c.report ticket (.ok .null) := by
    rw [beginStop, hcurrent]
  have hwaits : (c.report ticket (.ok .null)).isWaiting ticket = false := hfree
  rw [step, begin, hbegun, (hs.report ..).settle]
  simp only [await]
  cases 2 * (c.report ticket (.ok .null)).tasks.length with
  | zero => rfl
  | succ bound => simp [awaitWithin, hwaits]

theorem step_stop_of_died {e : Failure} (hr : c.reader? = some (.died e)) (ticket : Nat) :
    (ticket, .error e) ∈ (step b c (.stop ticket)).finished := by
  obtain ⟨j, -, hj, -⟩ := reader?_eq_some.mp hr
  have hidle : c.isReading = false := notReading_iff.mpr (by simp [hr])
  have hbegun : beginStop b ticket (.ok .null) c = finishStop ticket j (.ok .null) c := by
    rw [beginStop, hj]
    simp [isRunning_of_notReading hidle]
  have hreports : (ticket, .error e) ∈ (finishStop ticket j (.ok .null) c).finished := by
    obtain ⟨e', he, heq⟩ | ⟨_, -, he, -⟩ | ⟨he, -⟩ := finishStop_cases ticket j (.ok .null) c
    · obtain rfl : e' = e := by simpa [hr] using he.symm
      simp [heq, report]
    · simp [hr] at he
    · simp [hr] at he
  have hsettled := (goes_settle (b := b) (finishStop ticket j (.ok .null) c)).finished_subset hreports
  rw [step, begin, hbegun]
  exact (goes_awaitWithin ticket _ _).finished_subset hsettled

/-- What a stop leaves behind: its report after those before it, a dead
process, and nobody waiting. -/
structure Over (ticket i : Nat) (before c : Connection) : Prop where
  done : c.isWaiting ticket = false
  reported : ∃ reports ending, c.finished = before.finished ++ reports ∧ (ticket, ending) ∈ reports
  dead : ∃ p, c.processes[i]? = some p ∧ p.isAlive = false
  notRunning : c.isRunning = false
  pending : c.pending = []

/-- Every stop of a process ends. Nothing stays at hand and a second stop
does nothing, unless a stray message was heard and its failure is what this
stop and every later one report. -/
theorem stop_is_over {command : List String} {root : Path} {timeout : Seconds} {ownId : Nat}
    {c₀ : Connection} (b : Behaviour) (h : fresh command root timeout ownId = .ok c₀)
    {account : List Incident} {c : Connection} (hm : Moves b c₀ account c) {i : Nat}
    (hi : c.current = some i) {ticket : Nat} {events : List Event}
    (ha : Admissible c (.stop ticket :: events)) (hstart : ∀ e ∈ events, e.isStart = false)
    (hnew : ∀ ending, (ticket, ending) ∉ c.finished) :
    Over ticket i c (stopAmid b ticket events c) ∧
    ∃ later, Moves b c later (stopAmid b ticket events c) ∧
      (((stopAmid b ticket events c).current = none ∧
          ∀ again, (stopAmid b ticket events c).isWaiting again = false →
            step b (stopAmid b ticket events c) (.stop again) =
              (stopAmid b ticket events c).report again (.ok .null)) ∨
        ∃ message e, .heard message ∈ account ++ later ∧ isStray message = true ∧
          (stopAmid b ticket events c).reader? = some (.died e) ∧
          (ticket, .error e) ∈ (stopAmid b ticket events c).finished ∧
          ∀ again,
            (again, .error e) ∈ (step b (stopAmid b ticket events c) (.stop again)).finished) := by
  have htracked : Tracked account c := hm.tracked (.start h)
  have hgoes := goes_stopAmid (b := b) ha hstart
  have hsettled : Settled b (stopAmid b ticket events c) := settled_stopAmid events c
  have hstopped := stopped_stopAmid (b := b) hi htracked.tickets ha hstart
  generalize stopAmid b ticket events c = d at hgoes hstopped hsettled
  have hwanes := hgoes.wanes
  obtain ⟨later, hl, -⟩ := hgoes
  have hreading : d.isReading = false := hstopped.notReading
  refine ⟨⟨hstopped.done, ?_, ?_, isRunning_of_notReading hreading,
    (hl.tracked htracked).idle hreading⟩, later, hl, ?_⟩
  · obtain ⟨reports, hreports⟩ := hl.finished
    obtain ⟨ending, hmem⟩ := hstopped.reported
    rw [hreports, List.mem_append] at hmem
    exact ⟨reports, ending, hreports, hmem.resolve_left (hnew ending)⟩
  · have hlt : i < d.processes.length := hwanes.count ▸ hm.current_lt (fresh_ok h ▸ rfl) i hi
    have hp : d.processes[i]? = some d.processes[i] := List.getElem?_eq_getElem hlt
    exact ⟨d.processes[i], hp, hstopped.dead _ hp⟩
  · obtain ⟨hnone, -⟩ | ⟨e, hr, hmem⟩ := hstopped.outcome
    · exact .inl ⟨hnone, fun again hagain => step_stop_of_none hsettled hnone hagain⟩
    · -- no process was there at first, so a message heard since has broken the reader
      obtain ⟨j, hj⟩ := reader?_readerAt hr
      obtain hold | ⟨message, hheard, hstray⟩ := (hm.trans hl).died hj
      · simp [readerAt, fresh_ok h] at hold
      · exact .inr ⟨message, e, hheard, hstray, hr, hmem, step_stop_of_died hr⟩

def lostCall : List Event :=
  [.start 0 (.int 7), .output [emits (answer (.int 1) (.object []))], .request 1 "a" .null]

def stuck : Connection := run silent sampleStart lostCall

/-- The server agrees to shut down but does not exit, and another call is
made meanwhile. -/
def lingering : List Event := [.output [emits (answer (.int 3) .null)], .request 3 "b" .null]

def stuckStopped : Connection := stopAmid silent 2 lingering stuck

theorem stop_is_over_stuck :
    stuck.current = some 0 ∧ Admissible stuck (.stop 2 :: lingering) ∧
    (∀ ending, (2, ending) ∉ stuck.finished) ∧
    Over 2 0 stuck stuckStopped ∧ stuckStopped.current = none ∧
    (stuckStopped.finished.map fun r => (r.1, Ending.shown r.2)) =
      [(0, "7"), (2, "None"), (1, "Language server exited"), (3, "Language server exited")] ∧
    step silent stuckStopped (.stop 4) = stuckStopped.report 4 (.ok .null) := by
  have hstart : fresh ["server"] ⟨.root, []⟩ (.whole 5) 1 = .ok sampleStart := rfl
  have hadmissible : Admissible sampleStart lostCall := admissible_fresh hstart (by decide)
  obtain ⟨account, hm, -⟩ := moves_run (b := silent) hadmissible
  obtain ⟨hcurrent, hfree, hreports⟩ : stuck.current = some 0 ∧
      (∀ ticket ∈ [2, 3], stuck.isWaiting ticket = false) ∧
      stuck.finished.map Prod.fst = [0] := by decide +kernel
  have hcalls : Admissible stuck (.stop 2 :: lingering) := ⟨by decide, hfree⟩
  have hnew (ending : Ending) : (2, ending) ∉ stuck.finished := fun hmem => by
    have hticket := List.mem_map_of_mem (f := Prod.fst) hmem
    rw [hreports] at hticket
    simp at hticket
  obtain ⟨hnone, hlater, hfinished⟩ : stuckStopped.current = none ∧
      stuckStopped.isWaiting 4 = false ∧
      (stuckStopped.finished.map fun r => (r.1, Ending.shown r.2)) =
        [(0, "7"), (2, "None"), (1, "Language server exited"), (3, "Language server exited")] := by
    decide +kernel
  obtain ⟨hover, later, -, ⟨-, hagain⟩ | ⟨_, e, -, -, hdied, -⟩⟩ :=
    stop_is_over silent hstart (hm : Moves silent sampleStart account stuck) hcurrent hcalls
      (by decide) hnew
  · exact ⟨hcurrent, hcalls, hnew, hover, hnone, hfinished, hagain 4 hlater⟩
  · obtain ⟨j, _, hj, -⟩ := reader?_eq_some.mp hdied
    exact nomatch hnone.symm.trans hj

/-- The server sends the number five before it is stopped twice. -/
def strayed : List Event :=
  [.start 0 (.int 7), .output [emits (answer (.int 1) (.object []))], .output [emits (.int 5)],
    .stop 1, .stop 2]

/-- The number breaks the reader, and both stops report its failure. -/
theorem stray_message_outlasts_stops :
    isStray (.int 5) = true ∧ (run silent sampleStart strayed).current = some 0 ∧
    ((run silent sampleStart strayed).finished.map fun r => (r.1, Ending.shown r.2)) =
      [(0, "7"), (1, "TypeError"), (2, "TypeError")] := by
  decide +kernel

end Connection

end CodeAtlas.Wire
