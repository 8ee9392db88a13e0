import CodeAtlas.Proofs.Wire.Framing
import CodeAtlas.Proofs.Wire.Moves

namespace CodeAtlas.Wire.Connection

variable {b : Behaviour} {c d e : Connection} {P Q : Nat → Prop}

/-- From one state to another by moves for certain calls, without a launch. -/
def Goes (b : Behaviour) (P : Nat → Prop) (c d : Connection) : Prop :=
  ∃ account, Moves b c account d ∧
    ∀ i ∈ account, i ≠ .launched ∧ ∀ ticket, i.ticket? = some ticket → P ticket

theorem Goes.refl (c : Connection) : Goes b P c c := ⟨[], .refl, by simp⟩

theorem Goes.trans (h : Goes b P c d) (h' : Goes b P d e) : Goes b P c e := by
  obtain ⟨xs, hx, hxs⟩ := h
  obtain ⟨ys, hy, hys⟩ := h'
  exact ⟨xs ++ ys, hx.trans hy, List.forall_mem_append.mpr ⟨hxs, hys⟩⟩

theorem Goes.mono (h : Goes b P c d) (hPQ : ∀ ticket, P ticket → Q ticket) : Goes b Q c d := by
  obtain ⟨xs, hx, hxs⟩ := h
  exact ⟨xs, hx, fun i hi => ⟨(hxs i hi).1, fun ticket ht => hPQ ticket ((hxs i hi).2 ticket ht)⟩⟩

theorem Goes.waits (h : Goes b P c d) {ticket : Nat} (hd : d.isWaiting ticket = true) :
    c.isWaiting ticket = true ∨ P ticket := by
  obtain ⟨account, hm, hP⟩ := h
  obtain hc | ⟨i, hi, ht⟩ := hm.waits hd
  · exact .inl hc
  · exact .inr ((hP i hi).2 ticket ht)

theorem Goes.idle (h : Goes b P c d) {ticket : Nat} (hc : c.isWaiting ticket = false)
    (hP : ¬ P ticket) : d.isWaiting ticket = false := by
  refine Bool.eq_false_iff.mpr fun hd => ?_
  obtain hw | hw := h.waits hd
  · simp [hw] at hc
  · exact hP hw

theorem Goes.stays (h : Goes b P c d) {t : Task} (ht : t ∈ c.tasks) (hP : ¬ P t.ticket) :
    t ∈ d.tasks := by
  obtain ⟨account, hm, hother⟩ := h
  exact hm.stays ht fun i hi he => hP ((hother i hi).2 _ he)

theorem Move.goes (h : Move b c [] d) : Goes b P c d := ⟨[], h.moves, by simp⟩

theorem Move.goesFor {i : Incident} {ticket : Nat} (h : Move b c [i] d) (hi : i.ticket? = some ticket)
    (hP : P ticket) : Goes b P c d := by
  refine ⟨[i], h.moves, ?_⟩
  simp only [List.mem_singleton, forall_eq, hi, Option.some.injEq]
  refine ⟨?_, fun other ho => ho ▸ hP⟩
  rintro rfl
  simp [Incident.ticket?] at hi

def Incident.isQuiet : Incident → Bool
  | .heard _ | .answered _ | .unanswered .. | .cut => true
  | _ => false

def Quietly (b : Behaviour) (c d : Connection) : Prop :=
  ∃ account, Moves b c account d ∧ ∀ i ∈ account, i.isQuiet = true

theorem Incident.free_of_isQuiet {i : Incident} (h : i.isQuiet = true) :
    i ≠ .launched ∧ i.ticket? = none := by
  cases i <;> simp_all [isQuiet, ticket?]

theorem Quietly.refl (c : Connection) : Quietly b c c := ⟨[], .refl, by simp⟩

theorem Quietly.trans (h : Quietly b c d) (h' : Quietly b d e) : Quietly b c e := by
  obtain ⟨xs, hx, hxs⟩ := h
  obtain ⟨ys, hy, hys⟩ := h'
  exact ⟨xs ++ ys, hx.trans hy, List.forall_mem_append.mpr ⟨hxs, hys⟩⟩

theorem Quietly.goes (h : Quietly b c d) : Goes b P c d := by
  obtain ⟨account, hm, hq⟩ := h
  refine ⟨account, hm, fun i hi => ?_⟩
  obtain ⟨hl, hfree⟩ := Incident.free_of_isQuiet (hq i hi)
  exact ⟨hl, fun ticket ht => by simp [hfree] at ht⟩

theorem Move.quietly (h : Move b c incidents d) (hi : ∀ i ∈ incidents, i.isQuiet = true) :
    Quietly b c d := ⟨incidents, h.moves, hi⟩

theorem quietly_records (initialized : Bool) (capabilities serverInfo : Json) (log : List LogEntry)
    (c : Connection) : Quietly b c { c with initialized, capabilities, serverInfo, log } := by
  have h := Move.records (b := b) c initialized capabilities serverInfo [] log
  rw [List.append_nil] at h
  exact h.quietly (by simp)

theorem quietly_note (level : Level) (message : String) (c : Connection) :
    Quietly b c (c.note level message) := quietly_records ..

theorem quietly_report (ticket : Nat) (ending : Ending) (c : Connection) :
    Quietly b c (c.report ticket ending) :=
  (Move.records c c.initialized c.capabilities c.serverInfo [(ticket, ending)] c.log).quietly (by simp)

theorem hearing_quiet {message : Json} {outcome : Except Failure Unit} :
    ∀ i ∈ hearing message outcome, i.isQuiet = true := by
  unfold hearing
  split <;> simp [Incident.isQuiet]

theorem Move.launched (h : Move b c incidents d) (hl : .launched ∈ incidents) :
    incidents = [.launched] ∧ d = { c with
      processes := c.processes ++ [Peer.fresh c.root.toText]
      current := some c.processes.length } := by
  cases h with
  | launches => exact ⟨rfl, rfl⟩
  | hears => exact absurd rfl (Incident.free_of_isQuiet (hearing_quiet _ hl)).1
  | dies =>
      obtain hl | hl := List.mem_append.mp hl
      · exact absurd rfl (Incident.free_of_isQuiet (hearing_quiet _ hl)).1
      · simp at hl
  | _ => simp at hl

theorem quietly_endReading {i : Nat} {p : Peer} (hp : c.processes[i]? = some p)
    (hr : p.isReading = true) : Quietly b c (c.endReading i .finished) :=
  (Move.closes hp hr).quietly (by simp [Incident.isQuiet])

theorem quietly_breakReading {i : Nat} {p : Peer} (hp : c.processes[i]? = some p)
    (hr : p.isReading = true) {e : Failure} (he : (e.isService || e.isRefusal) = true) :
    Quietly b c (c.breakReading i e) := by
  have hnoted : (c.note .error (streamNote e)).processes[i]? = some p := hp
  rw [breakReading, if_pos he]
  exact (quietly_note ..).trans (quietly_endReading hnoted hr)

theorem quietly_hear {i : Nat} {p : Peer} {message : Json} {rest : List UInt8}
    {outcome : Except Failure Unit} (hp : c.processes[i]? = some p) (hr : p.isReading = true)
    (hn : next p.closed p.output = .message message rest) (hnull : message.isNull = false)
    (hd : dispatch b message (c.setPeer i fun p => { p with output := rest }) = (outcome, d)) :
    Quietly b c d := (Move.hears hp hr hn hnull hd).quietly hearing_quiet

theorem drain_induction {P : Connection → Prop} {i : Nat}
    (ends : ∀ c, P c → P (c.endReading i .finished)) (breaks : ∀ c e, P c → P (c.breakReading i e))
    (hears : ∀ {c d message rest outcome},
      dispatch b message (c.setPeer i fun p => { p with output := rest }) = (outcome, d) → P c → P d)
    (bound : Nat) (h : P c) : P (drain b i bound c) := by
  induction bound generalizing c with
  | zero => exact h
  | succ bound ih =>
      unfold drain
      split
      next => exact h
      next =>
        split
        next => exact h
        next =>
          split
          next => exact h
          next => exact ends c h
          next => exact breaks c _ h
          next =>
            split
            next => exact ends c h
            next =>
              split
              next after hd => exact ih (hears hd h)
              next e after hd => exact breaks after e (hears hd h)

theorem quietly_drain (i bound : Nat) (c : Connection) : Quietly b c (drain b i bound c) := by
  induction bound generalizing c with
  | zero => exact .refl c
  | succ bound ih =>
      unfold drain
      cases hp : c.processes[i]? with
      | none => exact .refl c
      | some p =>
          simp only
          split
          next => exact .refl c
          next hr =>
            have hr : p.isReading = true := by simpa using hr
            cases hn : next p.closed p.output with
            | waiting => exact .refl c
            | ended => exact quietly_endReading hp hr
            | broken e => exact quietly_breakReading hp hr (next_broken hn)
            | message value rest =>
                simp only
                split
                next => exact quietly_endReading hp hr
                next hnull =>
                  have hnull : value.isNull = false := by simpa using hnull
                  split
                  next after hd => exact (quietly_hear hp hr hn hnull hd).trans (ih after)
                  next e after hd =>
                    have hears : Quietly b c after := quietly_hear hp hr hn hnull hd
                    have hafter : after.processes[i]? = some { p with output := rest } := by
                      rw [(dispatch_error hd).1, setPeer_self hp]
                    -- only a failure that the reading expects ends it in the ordinary way
                    cases he : e.isService || e.isRefusal with
                    | true => exact hears.trans (quietly_breakReading hafter hr he)
                    | false =>
                        rw [breakReading, if_neg (by simp [he])]
                        refine (Move.dies hp hr hn hnull hd he).quietly ?_
                        exact List.forall_mem_append.mpr ⟨hearing_quiet, by simp [Incident.isQuiet]⟩

theorem drainAll_induction {P : Connection → Prop}
    (reads : ∀ i bound c, P c → P (drain b i bound c)) (h : P c) : P (drainAll b c) := by
  unfold drainAll
  generalize List.range c.processes.length = peers
  induction peers generalizing c with
  | nil => exact h
  | cons i rest ih => exact ih (reads i _ c h)

theorem quietly_drainAll (c : Connection) : Quietly b c (drainAll b c) :=
  drainAll_induction (fun i bound d hd => hd.trans (quietly_drain i bound d)) (.refl c)

theorem quietly_finishStop (ticket process : Nat) (ending : Ending) (c : Connection) :
    Quietly b c (finishStop ticket process ending c) :=
  (Move.stops c ticket process ending).quietly (by simp [Incident.isQuiet])

theorem quietly_finishUnclean (ticket process : Nat) (e : Failure) (ending : Ending)
    (c : Connection) : Quietly b c (finishUnclean ticket process e ending c) := by
  unfold finishUnclean
  split
  · exact (quietly_note ..).trans (quietly_finishStop ..)
  · exact quietly_finishStop ..

theorem quietly_askedInVain {method : String} {params : Json} {e : Failure}
    (h : send b method params c = (.error e, d)) : Quietly b c d :=
  (Move.asksInVain h).quietly (by simp)

theorem goes_expire {t : Task} (ht : t ∈ c.tasks) (htimed : t.stage.isTimed = true)
    (hP : P t.ticket) : Goes b P c (expire t c) := by
  obtain ⟨ticket, stage⟩ := t
  cases stage with
  | initializing | calling => simp [Stage.isTimed] at htimed
  | shuttingDown id process ending =>
      have hdrop : Goes b P c ((c.dropTask ticket).forget id) :=
        (Move.drops ht rfl htimed).goesFor rfl hP
      exact hdrop.trans (quietly_finishUnclean ..).goes
  | leaving process ending =>
      have hdrop : Goes b P c (c.dropTask ticket) := (Move.seesEnd ht rfl).goesFor rfl hP
      exact hdrop.trans (quietly_finishUnclean ..).goes

theorem isWaiting_eq_of_tasks {ticket : Nat} (h : d.tasks = c.tasks) :
    d.isWaiting ticket = c.isWaiting ticket := by rw [isWaiting, h, isWaiting]

theorem isWaiting_dropTask (ticket : Nat) (c : Connection) :
    (c.dropTask ticket).isWaiting ticket = false := by
  simp [isWaiting, dropTask]

theorem goes_ask {t : Task} {id : Nat} {method : String} {params : Json}
    (h : send b method params c = (.ok id, d)) (hq : t.stage.question? = some (id, method))
    (hfree : c.isWaiting t.ticket = false) (hP : P t.ticket) :
    Goes b P c (d.wait t.ticket t.stage) :=
  (Move.asks h hq hfree).goesFor rfl hP

theorem goes_beginStop {ticket : Nat} (hfree : c.isWaiting ticket = false) (ending : Ending)
    (hP : P ticket) : Goes b P c (beginStop b ticket ending c) := by
  unfold beginStop
  split
  next => exact (quietly_report ..).goes
  next process _ =>
    split
    next => exact (quietly_finishStop ..).goes
    next =>
      split
      next => exact (quietly_finishUnclean ..).goes
      next =>
        split
        next e after h => exact ((quietly_askedInVain h).trans (quietly_finishUnclean ..)).goes
        next id after h =>
          -- no call but this one can take its task away before the deadline
          let t : Task := ⟨ticket, .shuttingDown id process ending⟩
          have hasks : Goes b P c (after.wait t.ticket t.stage) := goes_ask h rfl hfree hP
          simp only
          split
          next =>
            have hmem : t ∈ (after.wait t.ticket t.stage).tasks := List.mem_append_right _ (by simp)
            have hstays := ((quietly_drainAll (b := b) _).goes (P := fun _ => False)).stays hmem not_false
            exact (hasks.trans (quietly_drainAll _).goes).trans (goes_expire hstays rfl hP)
          next => exact hasks

theorem Goes.ofNotify {method : String} {params : Json}
    (h : notify b method params c = (.ok (), d)) : Goes b P c d :=
  ⟨_, (Move.tells h).moves, by simp [Incident.ticket?]⟩

theorem goes_askToExit {ticket : Nat} (hfree : c.isWaiting ticket = false) (process : Nat)
    (ending : Ending) (hP : P ticket) : Goes b P c (askToExit b ticket process ending c) := by
  unfold askToExit
  split
  next e after h =>
    obtain rfl := write_error h
    exact (quietly_finishUnclean ..).goes
  next after h =>
    have htold : after.isWaiting ticket = false := by
      rw [isWaiting_eq_of_tasks (congrArg Table.tasks (table_write h).2)]
      exact hfree
    exact .trans (.ofNotify h) ((Move.awaitsEnd after ticket process ending htold).goesFor rfl hP)

theorem quietly_becomeReady (ticket : Nat) (value : Json) (c : Connection) :
    Quietly b c (becomeReady ticket value c) := by
  have hready : Quietly b c { c with initialized := true } := quietly_records ..
  simp only [becomeReady]
  split
  next => exact hready.trans (quietly_report ..)
  next => exact (hready.trans (quietly_note ..)).trans (quietly_report ..)

theorem quietly_adopt {result : Json} {outcome : Except Failure Unit}
    (h : adopt result c = (outcome, d)) : Quietly b c d ∧ d.tasks = c.tasks := by
  simp only [adopt] at h
  split at h
  next capabilities info _ _ =>
    obtain ⟨-, rfl⟩ := Prod.mk.inj h
    exact ⟨quietly_records .., rfl⟩
  all_goals
    obtain ⟨-, rfl⟩ := Prod.mk.inj h
    exact ⟨.refl c, rfl⟩

theorem goes_onInitialized {ticket : Nat} (hfree : c.isWaiting ticket = false) (value : Json)
    (reply : Except Failure Json) (hP : P ticket) :
    Goes b P c (onInitialized b ticket value reply c) := by
  unfold onInitialized
  split
  next => exact goes_beginStop hfree _ hP
  next result _ =>
    split
    next e after h =>
      obtain ⟨hquiet, htasks⟩ := quietly_adopt (b := b) h
      exact hquiet.goes.trans (goes_beginStop (isWaiting_eq_of_tasks htasks ▸ hfree) _ hP)
    next adopted h =>
      obtain ⟨hquiet, htasks⟩ := quietly_adopt (b := b) h
      have hadopted : adopted.isWaiting ticket = false := isWaiting_eq_of_tasks htasks ▸ hfree
      split
      next e after h =>
        obtain rfl := write_error h
        exact hquiet.goes.trans (goes_beginStop hadopted _ hP)
      next after h => exact (hquiet.goes.trans (.ofNotify h)).trans (quietly_becomeReady ..).goes

theorem goes_resume {t : Task} {id : Nat} {reply : Except Failure Json}
    {rest : List (Nat × Except Failure Json)} (h : c.replies = (id, reply) :: rest)
    (ht : t ∈ c.tasks) (ha : t.stage.awaits id = true) (hP : P t.ticket) :
    Goes b P c (resume b t reply (({ c with replies := rest } : Connection).dropTask t.ticket)) := by
  obtain ⟨method, hq⟩ := Stage.awaits_iff.mp ha
  have hcompletes :
      Goes b P c (handOver t (reply.bind (resultOf method)) { c with replies := rest }) :=
    (Move.completes h ht hq).goesFor rfl hP
  have hfree := isWaiting_dropTask t.ticket { c with replies := rest }
  -- the hand-over is one move; what the task does next is the rest
  obtain ⟨ticket, stage⟩ := t
  cases stage with
  | initializing n value => exact hcompletes.trans (goes_onInitialized hfree value reply hP)
  | calling n m =>
      obtain ⟨rfl, rfl⟩ : n = id ∧ m = method := by simpa [Stage.question?] using hq
      exact hcompletes
  | shuttingDown n process ending =>
      refine hcompletes.trans ?_
      simp only [resume]
      split
      next => exact goes_askToExit hfree process ending hP
      next => exact (quietly_finishUnclean ..).goes
  | leaving process ending => simp [Stage.question?] at hq

theorem goes_leave {t : Task} (ht : t ∈ c.tasks) (hleft : c.hasLeft t.stage = true) (hP : P t.ticket) :
    Goes b P c (resume b t (.ok .null) (c.dropTask t.ticket)) := by
  obtain ⟨ticket, stage⟩ := t
  cases stage with
  | leaving process ending =>
      have hends : Goes b P c (c.dropTask ticket) := (Move.seesEnd ht rfl).goesFor rfl hP
      exact hends.trans (quietly_finishStop ..).goes
  | initializing | calling | shuttingDown => simp [hasLeft] at hleft

theorem advance_cases (h : advance? b c = some d) :
    Goes b (fun _ => False) c d ∨
    ∃ t ∈ c.tasks, Goes b (· = t.ticket) c d ∧ ∃ reply rest,
      d = resume b t reply (({ c with replies := rest } : Connection).dropTask t.ticket) := by
  unfold advance? at h
  split at h
  next id reply rest hreplies =>
    simp only at h
    split at h
    next hnone =>
      obtain rfl := Option.some.inj h
      have hn : ∀ t ∈ c.tasks, t.stage.awaits id = false := by simpa using hnone
      exact .inl (Move.discards hreplies hn).goes
    next t hsome =>
      obtain rfl := Option.some.inj h
      have ht : t ∈ c.tasks := List.mem_of_find?_eq_some hsome
      have ha : t.stage.awaits id = true := by simpa using List.find?_some hsome
      exact .inr ⟨t, ht, goes_resume hreplies ht ha rfl, reply, rest, rfl⟩
  next =>
    obtain ⟨t, hsome, rfl⟩ := Option.map_eq_some_iff.mp h
    have ht : t ∈ c.tasks := List.mem_of_find?_eq_some hsome
    have hleft : c.hasLeft t.stage = true := by simpa using List.find?_some hsome
    exact .inr ⟨t, ht, goes_leave ht hleft rfl, .ok .null, c.replies, rfl⟩

theorem goes_advance? (h : advance? b c = some d) :
    Goes b (fun ticket => c.isWaiting ticket = true) c d := by
  obtain hgoes | ⟨t, ht, hgoes, -⟩ := advance_cases h
  · exact hgoes.mono fun _ => False.elim
  · exact hgoes.mono fun ticket heq => isWaiting_iff.mpr ⟨t, ht, heq.symm⟩

theorem settle_induction {P : Connection → Prop} (reads : ∀ {c}, P c → P (drainAll b c))
    (goesOn : ∀ {c d}, advance? b c = some d → P c → P d) (h : P c) : P (settle b c) := by
  unfold settle
  generalize c.settlingBound = bound
  induction bound generalizing c with
  | zero => exact reads h
  | succ bound ih =>
      simp only [settleWithin]
      split
      next => exact reads h
      next d hd => exact ih (goesOn hd (reads h))

theorem goes_settleWithin {advance : Connection → Option Connection}
    (goesOn : ∀ {c d}, advance c = some d → Goes b (fun ticket => c.isWaiting ticket = true) c d)
    (bound : Nat) (c : Connection) :
    Goes b (fun ticket => c.isWaiting ticket = true) c (settleWithin b advance bound c) := by
  induction bound generalizing c with
  | zero => exact (quietly_drainAll c).goes
  | succ bound ih =>
      have hread : Goes b (fun ticket => c.isWaiting ticket = true) c (drainAll b c) :=
        (quietly_drainAll c).goes
      have hwaits {ticket : Nat} (h : (drainAll b c).isWaiting ticket = true) :
          c.isWaiting ticket = true := (hread.waits h).elim id id
      simp only [settleWithin]
      split
      next => exact hread
      next d h =>
        -- a call that waits later has waited from the beginning
        have hadvance := (goesOn h).mono fun ticket => hwaits
        refine (hread.trans hadvance).trans ((ih d).mono fun ticket hd => ?_)
        exact (hadvance.waits hd).elim hwaits id

theorem goes_settle (c : Connection) :
    Goes b (fun ticket => c.isWaiting ticket = true) c (settle b c) :=
  goes_settleWithin goes_advance? ..

theorem goes_awaitWithin (ticket bound : Nat) (c : Connection) :
    Goes b (fun other => c.isWaiting other = true) c (awaitWithin b ticket bound c) := by
  induction bound generalizing c with
  | zero => exact .refl c
  | succ bound ih =>
      unfold awaitWithin
      split
      next => exact .refl c
      next =>
        split
        next => exact .refl c
        next t hsome =>
          have ht : t ∈ c.tasks := List.mem_of_find?_eq_some hsome
          have htimed : t.stage.isTimed = true := by simpa using List.find?_some hsome
          have hexpire : Goes b (fun other => c.isWaiting other = true) c (expire t c) :=
            goes_expire ht htimed (isWaiting_iff.mpr ⟨t, ht, rfl⟩)
          have hsettle : Goes b (fun other => c.isWaiting other = true) c (settle b (expire t c)) :=
            hexpire.trans ((goes_settle _).mono fun other h => (hexpire.waits h).elim id id)
          exact hsettle.trans ((ih _).mono fun other h => (hsettle.waits h).elim id id)

theorem moves_beginRequest {ticket : Nat} (hfree : c.isWaiting ticket = false) (method : String)
    (params : Json) : ∃ account, Moves b c account (beginRequest b ticket method params c) ∧
      (∀ i ∈ account, i ≠ .launched ∧ ∀ other, i.ticket? = some other → other = ticket) ∧
      ((∃ id, .asked ⟨ticket, .calling id method⟩ params ∈ account) ∨
        ∃ e, (ticket, .error e) ∈ (beginRequest b ticket method params c).finished) := by
  have refused {d : Connection} {e : Failure} (h : Goes b (· = ticket) c (d.report ticket (.error e))) :
      ∃ account, Moves b c account (d.report ticket (.error e)) ∧
        (∀ i ∈ account, i ≠ .launched ∧ ∀ other, i.ticket? = some other → other = ticket) ∧
        ((∃ id, .asked ⟨ticket, .calling id method⟩ params ∈ account) ∨
          ∃ e', (ticket, .error e') ∈ (d.report ticket (.error e)).finished) := by
    obtain ⟨account, hm, hP⟩ := h
    exact ⟨account, hm, hP, .inr ⟨e, by simp [report]⟩⟩
  unfold beginRequest
  split
  next => exact refused (quietly_report ..).goes
  next =>
    split
    next e after h => exact refused ((quietly_askedInVain h).trans (quietly_report ..)).goes
    next id after h =>
      have hasks := Move.asks (b := b) (t := ⟨ticket, .calling id method⟩) h rfl hfree
      exact ⟨_, hasks.moves, by simp [Incident.ticket?], .inl ⟨id, by simp⟩⟩

theorem goes_doNotify (ticket : Nat) (method : String) (params : Json) (c : Connection) :
    Goes b P c (doNotify b ticket method params c) := by
  unfold doNotify
  split
  next e after h =>
    obtain rfl := write_error h
    exact (quietly_report ..).goes
  next after h => exact .trans (.ofNotify h) (quietly_report ..).goes

theorem moves_beginStart {ticket : Nat} (hfree : c.isWaiting ticket = false) (value : Json) :
    ∃ account, Moves b c account (beginStart b ticket value c) ∧
      ∀ i ∈ account, ∀ other, i.ticket? = some other → other = ticket := by
  unfold beginStart
  split
  next =>
    obtain ⟨account, hm, hP⟩ := (quietly_report (b := b) ticket _ c).goes (P := (· = ticket))
    exact ⟨account, hm, fun i hi => (hP i hi).2⟩
  next hlaunch =>
    have hlaunches := (Move.launches c hlaunch).moves
    simp only
    have follow {d e : Connection} (hl : Moves b c [.launched] d) (h : Goes b (· = ticket) d e) :
        ∃ account, Moves b c account e ∧
          ∀ i ∈ account, ∀ other, i.ticket? = some other → other = ticket := by
      obtain ⟨account, hm, hP⟩ := h
      refine ⟨_, hl.trans hm, List.forall_mem_append.mpr ⟨?_, fun i hi => (hP i hi).2⟩⟩
      simp [Incident.ticket?]
    split
    next e after h =>
      have hafter : Goes b (· = ticket) _ after := ((quietly_note ..).trans (quietly_askedInVain h)).goes
      refine follow hlaunches (hafter.trans (goes_beginStop ?_ _ rfl))
      obtain ⟨-, n, -, ht⟩ := send_error h
      rw [isWaiting_eq_of_tasks (congrArg Table.tasks ht)]
      exact hfree
    next id after h =>
      have hasks := goes_ask (P := (· = ticket)) (t := ⟨ticket, .initializing id value⟩) h rfl hfree rfl
      exact follow hlaunches ((quietly_note ..).goes.trans hasks)

def Event.isStart : Event → Bool
  | .start .. => true
  | _ => false

/-- The calls of some events, each with a ticket of its own, and none that
a task waits with already. -/
structure Admissible (c : Connection) (events : List Event) : Prop where
  distinct : (events.filterMap Event.ticket?).Nodup
  free : ∀ ticket ∈ events.filterMap Event.ticket?, c.isWaiting ticket = false

theorem Goes.settled {e : Event} (h : Goes b (fun ticket => e.ticket? = some ticket) c d) :
    Goes b (fun ticket => c.isWaiting ticket = true ∨ e.ticket? = some ticket) c (settle b d) :=
  (h.mono fun _ => .inr).trans ((goes_settle d).mono fun _ hd => h.waits hd)

theorem goes_step {e : Event} (hstart : e.isStart = false)
    (hfree : ∀ ticket, e.ticket? = some ticket → c.isWaiting ticket = false) :
    Goes b (fun ticket => c.isWaiting ticket = true ∨ e.ticket? = some ticket) c (step b c e) := by
  cases e with
  | start ticket value => simp [Event.isStart] at hstart
  | stop ticket =>
      have hsettled := Goes.settled (b := b) (e := .stop ticket)
        (goes_beginStop (hfree ticket rfl) (.ok .null) rfl)
      exact hsettled.trans ((goes_awaitWithin ..).mono fun _ hd => (hsettled.waits hd).elim .inl id)
  | request ticket method params =>
      obtain ⟨account, hm, hP, -⟩ := moves_beginRequest (b := b) (hfree ticket rfl) method params
      have hgoes : Goes b (· = ticket) c (beginRequest b ticket method params c) := ⟨account, hm, hP⟩
      exact Goes.settled (e := .request ticket method params)
        (hgoes.mono fun other ho => congrArg some ho.symm)
  | notify ticket method params => exact Goes.settled (goes_doNotify ticket method params c)
  | output acts => exact Goes.settled (Move.acts c _ acts).goes

theorem Moves.settled (h : Moves b c account d)
    (hP : ∀ i ∈ account, ∀ ticket, i.ticket? = some ticket → P ticket) :
    ∃ later, Moves b d later (settle b d) ∧
      ∀ i ∈ account ++ later, ∀ ticket, i.ticket? = some ticket →
        c.isWaiting ticket = true ∨ P ticket := by
  obtain ⟨later, hl, hlater⟩ := goes_settle (b := b) d
  refine ⟨later, hl, List.forall_mem_append.mpr
    ⟨fun i hi ticket ht => .inr (hP i hi ticket ht), ?_⟩⟩
  intro i hi ticket ht
  obtain hc | ⟨j, hj, hjt⟩ := h.waits ((hlater i hi).2 ticket ht)
  · exact .inl hc
  · exact .inr (hP j hj ticket hjt)

/-- A call for a reply leads to a request, or fails at once. -/
def Heeded (account : List Incident) (c : Connection) : Event → Prop
  | .request ticket method params =>
    (∃ id, .asked ⟨ticket, .calling id method⟩ params ∈ account) ∨
      ∃ failure, (ticket, .error failure) ∈ c.finished
  | _ => True

theorem Heeded.mono {e : Event} {account' : List Incident} (h : Heeded account c e)
    (haccount : account ⊆ account') (hfinished : c.finished ⊆ d.finished) :
    Heeded account' d e := by
  cases e with
  | request ticket method params =>
      obtain ⟨id, hasked⟩ | ⟨failure, hfailed⟩ := h
      · exact .inl ⟨id, haccount hasked⟩
      · exact .inr ⟨failure, hfinished hfailed⟩
  | start | stop | notify | output => trivial

theorem Moves.finished_subset (h : Moves b c account d) : c.finished ⊆ d.finished := by
  obtain ⟨reports, heq⟩ := h.finished
  exact heq ▸ List.subset_append_left ..

theorem Goes.finished_subset (h : Goes b P c d) : c.finished ⊆ d.finished := by
  obtain ⟨account, hm, -⟩ := h
  exact hm.finished_subset

theorem moves_step {e : Event}
    (hfree : ∀ ticket, e.ticket? = some ticket → c.isWaiting ticket = false) :
    ∃ account, Moves b c account (step b c e) ∧
      (∀ i ∈ account, ∀ ticket, i.ticket? = some ticket →
        c.isWaiting ticket = true ∨ e.ticket? = some ticket) ∧
      Heeded account (step b c e) e := by
  cases e with
  | start ticket value =>
      obtain ⟨xs, hx, hxs⟩ := moves_beginStart (b := b) (hfree ticket rfl) value
      obtain ⟨ys, hy, hP⟩ := hx.settled fun i hi other ho => congrArg some (hxs i hi other ho).symm
      exact ⟨xs ++ ys, hx.trans hy, hP, trivial⟩
  | request ticket method params =>
      obtain ⟨xs, hx, hxs, hheeded⟩ := moves_beginRequest (b := b) (hfree ticket rfl) method params
      obtain ⟨ys, hy, hP⟩ := hx.settled fun i hi other ho => congrArg some ((hxs i hi).2 other ho).symm
      refine ⟨xs ++ ys, hx.trans hy, hP, ?_⟩
      exact Heeded.mono (e := .request ticket method params) hheeded
        (List.subset_append_left xs ys) hy.finished_subset
  | stop | notify | output =>
      obtain ⟨account, hm, hP⟩ := goes_step (b := b) rfl hfree
      exact ⟨account, hm, fun i hi => (hP i hi).2, trivial⟩

theorem Admissible.head {e : Event} {events : List Event} (h : Admissible c (e :: events))
    {ticket : Nat} (ht : e.ticket? = some ticket) :
    c.isWaiting ticket = false ∧ ticket ∉ events.filterMap Event.ticket? := by
  obtain ⟨hd, hf⟩ := h
  rw [List.filterMap_cons, ht] at hd hf
  exact ⟨hf ticket List.mem_cons_self, (List.nodup_cons.mp hd).1⟩

theorem Admissible.tail {e : Event} {events : List Event} (h : Admissible c (e :: events)) :
    Admissible c events := by
  have hsub := (List.sublist_cons_self e events).filterMap Event.ticket?
  exact ⟨h.distinct.sublist hsub, fun ticket hmem => h.free ticket (hsub.subset hmem)⟩

theorem Admissible.moves {events : List Event} (h : Admissible c events) (hm : Moves b c account d)
    (hP : ∀ i ∈ account, ∀ ticket, i.ticket? = some ticket →
      c.isWaiting ticket = true ∨ ticket ∉ events.filterMap Event.ticket?) : Admissible d events := by
  refine ⟨h.distinct, fun ticket hmem => Bool.eq_false_iff.mpr fun hw => ?_⟩
  have hfree := h.free ticket hmem
  obtain hc | ⟨i, hi, ht⟩ := hm.waits hw
  · simp [hc] at hfree
  · obtain hc | hnot := hP i hi ticket ht
    · simp [hc] at hfree
    · exact hnot hmem

theorem Admissible.next {e : Event} {events : List Event} (h : Admissible c (e :: events)) :
    (∀ ticket, e.ticket? = some ticket → c.isWaiting ticket = false) ∧
      Admissible (step b c e) events := by
  have hfree : ∀ ticket, e.ticket? = some ticket → c.isWaiting ticket = false := fun _ ht =>
    (h.head ht).1
  obtain ⟨account, hm, hP, -⟩ := moves_step (b := b) hfree
  refine ⟨hfree, h.tail.moves hm fun i hi ticket ht => ?_⟩
  exact (hP i hi ticket ht).imp_right fun he => (h.head he).2

theorem goes_run {events : List Event} (h : Admissible c events)
    (hstart : ∀ e ∈ events, e.isStart = false) : Goes b (fun _ => True) c (run b c events) := by
  induction events generalizing c with
  | nil => exact .refl c
  | cons e events ih =>
      obtain ⟨hfree, hnext⟩ := h.next (b := b)
      obtain ⟨he, hrest⟩ := List.forall_mem_cons.mp hstart
      exact ((goes_step he hfree).mono fun _ _ => trivial).trans (ih hnext hrest)

theorem moves_run {events : List Event} (h : Admissible c events) :
    ∃ account, Moves b c account (run b c events) ∧
      ∀ e ∈ events, Heeded account (run b c events) e := by
  induction events generalizing c with
  | nil => exact ⟨[], .refl, by simp⟩
  | cons e events ih =>
      obtain ⟨hfree, hnext⟩ := h.next (b := b)
      obtain ⟨xs, hx, -, hheeded⟩ := moves_step (b := b) hfree
      obtain ⟨ys, hy, hrest⟩ := ih hnext
      refine ⟨xs ++ ys, hx.trans hy, List.forall_mem_cons.mpr ⟨?_, fun e' he' => ?_⟩⟩
      · exact hheeded.mono (List.subset_append_left xs ys) hy.finished_subset
      · exact (hrest e' he').mono (List.subset_append_right xs ys) (List.Subset.refl _)

end CodeAtlas.Wire.Connection
