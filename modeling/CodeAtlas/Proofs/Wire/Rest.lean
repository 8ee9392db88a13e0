import CodeAtlas.Proofs.Wire.Framing
import CodeAtlas.Proofs.Wire.Steps
import Mathlib

namespace CodeAtlas.Wire

/-- How often a task can go on without waiting for another reply than the
one it waits for. -/
def Task.rank (t : Task) : Nat :=
  match t.stage with
  | .initializing _ _ => 2
  | .calling _ _ => 0
  | .shuttingDown _ _ _ | .leaving _ _ => 1

namespace Connection

variable {b : Behaviour} {c d : Connection}

def streamAt (i : Nat) (c : Connection) : Option (List UInt8 × Bool × Reader) :=
  c.processes[i]?.map fun p => (p.output, p.closed, p.reader)

def DrainedAt (i : Nat) (c : Connection) : Prop :=
  ∀ p, c.processes[i]? = some p → p.isReading = true → next p.closed p.output = .waiting

theorem DrainedAt.of_stream {i : Nat} (h : DrainedAt i c) (hs : streamAt i d = streamAt i c) :
    DrainedAt i d := by
  intro p hp hr
  cases hq : c.processes[i]? with
  | none => simp [streamAt, hp, hq] at hs
  | some q =>
      obtain ⟨houtput, hclosed, hreader⟩ :
          p.output = q.output ∧ p.closed = q.closed ∧ p.reader = q.reader := by
        simpa [streamAt, hp, hq] using hs
      have hq' := h q hq (by rw [Peer.isReading, ← hreader]; exact hr)
      rw [houtput, hclosed, hq']

theorem outputSize_eq (c : Connection) (i : Nat) :
    c.outputSize i = ((streamAt i c).map fun s => s.1.length).getD 0 := by
  simp [outputSize, streamAt, Function.comp_def]

theorem streamAt_setPeer_ne {i j : Nat} (f : Peer → Peer) (h : j ≠ i) :
    streamAt i (c.setPeer j f) = streamAt i c := by
  simp [streamAt, setPeer, h]

theorem answerNull_stream {id : Json} {outcome : Except Failure Unit}
    (h : answerNull b id c = (outcome, d)) (i : Nat) : streamAt i d = streamAt i c := by
  cases outcome with
  | error e => rw [write_error h]
  | ok _ =>
      obtain ⟨j, p, acts, -, -, -, rfl⟩ := write_ok h
      by_cases hij : j = i
      · subst hij
        cases hp : c.processes[j]? <;> simp [streamAt, setPeer, hp, Peer.take]
      · exact streamAt_setPeer_ne _ hij

theorem dispatch_stream {message : Json} {outcome : Except Failure Unit}
    (h : dispatch b message c = (outcome, d)) (i : Nat) : streamAt i d = streamAt i c := by
  unfold dispatch at h
  split at h
  next =>
    split at h
    next => exact answerNull_stream (c := c.note .debug _) h i
    next => exact (Prod.mk.inj h).2 ▸ rfl
    next =>
      unfold deliver at h
      split at h
      next => exact (Prod.mk.inj h).2 ▸ rfl
      next => exact (Prod.mk.inj h).2 ▸ rfl
      next =>
        split at h
        next =>
          obtain ⟨-, rfl⟩ := Prod.mk.inj h
          split <;> rfl
        next => exact (Prod.mk.inj h).2 ▸ rfl
  all_goals exact (Prod.mk.inj h).2 ▸ rfl

theorem endReading_drained (i : Nat) {reader : Reader} (hend : reader ≠ .reading) (c : Connection) :
    DrainedAt i (c.endReading i reader) := by
  intro p hp hr
  simp only [endReading, failPending, setPeer, List.getElem?_modify, if_true, Option.map_eq_map,
    Option.map_eq_some_iff] at hp
  obtain ⟨q, -, rfl⟩ := hp
  cases reader <;> simp_all [Peer.isReading]

theorem breakReading_drained (i : Nat) (e : Failure) (c : Connection) :
    DrainedAt i (c.breakReading i e) := by
  unfold breakReading
  split
  next => exact endReading_drained i Reader.noConfusion _
  next => exact endReading_drained i Reader.noConfusion c

theorem breakReading_stream_ne {i j : Nat} (h : j ≠ i) (e : Failure) (c : Connection) :
    streamAt i (c.breakReading j e) = streamAt i c := by
  unfold breakReading
  split <;> exact streamAt_setPeer_ne _ h

theorem drain_drained {i bound : Nat} (h : c.outputSize i < bound) :
    DrainedAt i (drain b i bound c) := by
  induction bound generalizing c with
  | zero => simp at h
  | succ bound ih =>
      unfold drain
      cases hp : c.processes[i]? with
      | none =>
          intro p hp'
          simp [hp] at hp'
      | some p =>
          simp only
          split
          next hr =>
            intro q hq hq'
            obtain rfl : p = q := Option.some.inj (hp.symm.trans hq)
            simp [hq'] at hr
          next =>
            cases hn : next p.closed p.output with
            | waiting =>
                intro q hq _
                obtain rfl : p = q := Option.some.inj (hp.symm.trans hq)
                exact hn
            | ended => exact endReading_drained i Reader.noConfusion c
            | broken e => exact breakReading_drained i e c
            | message value rest =>
                simp only
                split
                next => exact endReading_drained i Reader.noConfusion c
                next =>
                  split
                  next after hd =>
                    -- the message took a byte off the output, and its answer added none
                    refine ih ?_
                    have hshort : rest.length < p.output.length := next_shorter hn
                    have hstream : streamAt i after = some (rest, p.closed, p.reader) := by
                      rw [dispatch_stream hd i]
                      simp [streamAt, setPeer, hp]
                    have hafter : after.outputSize i = rest.length := by
                      rw [outputSize_eq, hstream]
                      rfl
                    have hbefore : c.outputSize i = p.output.length := by simp [outputSize, hp]
                    omega
                  next e after hd => exact breakReading_drained i e after

theorem drain_stream_ne {i j : Nat} (h : j ≠ i) (bound : Nat) (c : Connection) :
    streamAt i (drain b j bound c) = streamAt i c :=
  drain_induction (P := fun d => streamAt i d = streamAt i c)
    (fun _ hd => (streamAt_setPeer_ne _ h).trans hd) (fun _ _ hd => (breakReading_stream_ne h ..).trans hd)
    (fun hdisp hd => ((dispatch_stream hdisp i).trans (streamAt_setPeer_ne _ h)).trans hd) bound rfl

theorem Goes.wanes {P : Nat → Prop} (h : Goes b P c d) : Wanes c d := by
  obtain ⟨account, hm, hP⟩ := h
  exact hm.wanes fun hl => (hP _ hl).1 rfl

def Drained (c : Connection) : Prop := ∀ i, DrainedAt i c

theorem drained_drainAll (c : Connection) : Drained (drainAll b c) := by
  -- reading one output leaves the others as they are
  have hfold (peers : List Nat) (c : Connection) (i : Nat) (h : i ∈ peers ∨ DrainedAt i c) :
      DrainedAt i (peers.foldl (fun c i => drain b i (c.outputSize i + 1) c) c) := by
    induction peers generalizing c with
    | nil => exact h.resolve_left List.not_mem_nil
    | cons j peers ih =>
        refine ih _ ?_
        by_cases hij : j = i
        · exact .inr (hij ▸ drain_drained (Nat.lt_succ_self _))
        · obtain h | h := h
          · exact .inl ((List.mem_cons.mp h).resolve_left (Ne.symm hij))
          · exact .inr (h.of_stream (drain_stream_ne hij _ c))
  intro i
  by_cases hi : i < c.processes.length
  · exact hfold _ c i (.inl (List.mem_range.mpr hi))
  · intro p hp
    have hcount := ((quietly_drainAll (b := b) c).goes (P := fun _ => True)).wanes.count
    have hlt := (List.getElem?_eq_some_iff.mp hp).1
    exact absurd (hcount ▸ hlt) hi

theorem Drained.drainAll (h : Drained c) : drainAll b c = c := by
  have hdrain (i : Nat) : drain b i (c.outputSize i + 1) c = c := by
    unfold drain
    cases hp : c.processes[i]? with
    | none => rfl
    | some p =>
        cases hr : p.isReading with
        | false => simp [hr]
        | true => simp [hr, h i p hp hr]
  unfold Connection.drainAll
  generalize List.range c.processes.length = peers
  induction peers with
  | nil => rfl
  | cons i peers ih => rw [List.foldl_cons, hdrain, ih]

def Table.work (t : Table) : Nat :=
  (t.tasks.map Task.rank).sum + t.pending.length + t.replies.length

theorem work_lt_bound (c : Connection) :
    c.table.work < c.settlingBound := by
  have hrank : (c.tasks.map Task.rank).sum ≤ 3 * c.tasks.length := by
    induction c.tasks with
    | nil => simp
    | cons t tasks ih =>
        have ht : t.rank ≤ 3 := by
          unfold Task.rank
          split <;> decide
        simp only [List.map_cons, List.sum_cons, List.length_cons]
        omega
  simp only [Table.work, table, settlingBound]
  omega

theorem Table.work_cut (t : Table) : t.cut.work = t.work := by
  simp only [work, cut, List.length_nil, List.length_append, List.length_map]
  omega

theorem Table.work_reply {t : Table} {id : Nat} (h : id ∈ t.pending) (message : Json) :
    (t.reply id message).work ≤ t.work := by
  have hlt : (t.pending.filter (· != id)).length < t.pending.length :=
    List.length_filter_lt_length_iff_exists.mpr ⟨id, h, by simp⟩
  simp only [work, reply, List.length_append, List.length_singleton]
  omega

theorem work_endReading (i : Nat) (reader : Reader) (c : Connection) :
    (c.endReading i reader).table.work = c.table.work := Table.work_cut c.table

theorem work_breakReading (i : Nat) (e : Failure) (c : Connection) :
    (c.breakReading i e).table.work = c.table.work := by
  unfold breakReading
  split <;> exact work_endReading ..

theorem work_dispatch {message : Json} {outcome : Except Failure Unit}
    (h : dispatch b message c = (outcome, d)) : d.table.work ≤ c.table.work := by
  obtain ⟨-, ⟨_, -, -, ht⟩ | ⟨n, hn, -, -, ht⟩ | ⟨-, -, ht⟩⟩ := dispatch_cases h
  · rw [ht]
    exact Nat.le_refl _
  · rw [ht]
    exact Table.work_reply hn message
  · rw [ht]

theorem work_drain (i bound : Nat) (c : Connection) :
    (drain b i bound c).table.work ≤ c.table.work :=
  drain_induction (P := fun d => d.table.work ≤ c.table.work)
    (fun _ hd => (work_endReading ..).trans_le hd) (fun _ _ hd => (work_breakReading ..).trans_le hd)
    (fun hdisp hd => (work_dispatch hdisp).trans hd) bound (Nat.le_refl _)

theorem work_drainAll (c : Connection) : (drainAll b c).table.work ≤ c.table.work :=
  drainAll_induction (P := fun d => d.table.work ≤ c.table.work)
    (fun i bound d hd => (work_drain i bound d).trans hd) (Nat.le_refl _)

theorem work_finishStop (ticket process : Nat) (ending : Ending) (c : Connection) :
    (finishStop ticket process ending c).table.work = c.table.work := by
  have hletGo (d : Connection) : (letGo ticket ending d).table.work = d.table.work := by
    simp only [Table.work, table, letGo, report, failPending, List.length_nil, List.length_append,
      List.length_map]
    omega
  obtain ⟨e, -, heq⟩ | ⟨i, -, -, heq⟩ | ⟨-, heq⟩ := finishStop_cases ticket process ending c
  · rw [heq]
    rfl
  · rw [heq, hletGo, work_endReading]
    rfl
  · rw [heq, hletGo]
    rfl

theorem work_finishUnclean (ticket process : Nat) (e : Failure) (ending : Ending) (c : Connection) :
    (finishUnclean ticket process e ending c).table.work = c.table.work := by
  unfold finishUnclean
  split <;> exact work_finishStop ..

theorem sum_filter_le (p : Task → Bool) (tasks : List Task) :
    ((tasks.filter p).map Task.rank).sum ≤ (tasks.map Task.rank).sum := by
  induction tasks with
  | nil => simp
  | cons t tasks ih =>
      rw [List.filter_cons]
      split
      · simpa using ih
      · exact ih.trans (by simp)

theorem sum_filter_add_le {p : Task → Bool} {tasks : List Task} {t : Task} (h : t ∈ tasks)
    (hp : p t = false) : ((tasks.filter p).map Task.rank).sum + t.rank ≤ (tasks.map Task.rank).sum := by
  induction tasks with
  | nil => simp at h
  | cons u tasks ih =>
      have hle := sum_filter_le p tasks
      rw [List.filter_cons, List.map_cons, List.sum_cons]
      obtain rfl | h := List.mem_cons.mp h
      · rw [if_neg (by simp [hp])]
        omega
      · have hrest := ih h
        split
        · rw [List.map_cons, List.sum_cons]
          omega
        · omega

theorem work_wait (ticket : Nat) (stage : Stage) (c : Connection) :
    (c.wait ticket stage).table.work = c.table.work + Task.rank ⟨ticket, stage⟩ := by
  simp only [Table.work, table, wait, List.map_append, List.sum_append, List.map_singleton,
    List.sum_singleton]
  omega

theorem work_dropTask {t : Task} (h : t ∈ c.tasks) :
    (c.dropTask t.ticket).table.work + t.rank ≤ c.table.work := by
  have hsum := sum_filter_add_le (p := fun u => u.ticket != t.ticket) h (by simp)
  simp only [Table.work, table, dropTask]
  omega

theorem work_dropTask_le (ticket : Nat) (c : Connection) :
    (c.dropTask ticket).table.work ≤ c.table.work := by
  have hle := sum_filter_le (fun t => t.ticket != ticket) c.tasks
  simp only [Table.work, table, dropTask]
  omega

theorem work_forget (id : Nat) (c : Connection) : (c.forget id).table.work ≤ c.table.work := by
  have hpending := List.length_filter_le (· != id) c.pending
  have hreplies := List.length_filter_le (fun r => r.1 != id) c.replies
  simp only [Table.work, table, forget]
  omega

theorem work_expire (t : Task) (c : Connection) : (expire t c).table.work ≤ c.table.work := by
  have hdrop := work_dropTask_le t.ticket c
  unfold expire
  split
  next => exact (work_finishUnclean ..).trans_le ((work_forget ..).trans hdrop)
  next => exact (work_finishUnclean ..).trans_le hdrop
  next => exact Nat.le_refl _

theorem work_send {method : String} {params : Json} {id : Nat}
    (h : send b method params c = (.ok id, d)) : d.table.work = c.table.work + 1 := by
  obtain ⟨-, -, -, ht⟩ := send_ok h
  rw [ht]
  simp only [Table.work, Table.ask, Table.write, List.length_append, List.length_singleton]
  omega

theorem work_send_error {method : String} {params : Json} {e : Failure}
    (h : send b method params c = (.error e, d)) : d.table.work = c.table.work := by
  obtain ⟨-, n, -, ht⟩ := send_error h
  rw [ht]
  rfl

theorem work_notify {method : String} {params : Json} (h : notify b method params c = (.ok (), d)) :
    d.table.work = c.table.work := by
  rw [(table_write h).2]
  rfl

theorem work_beginStop (ticket : Nat) (ending : Ending) (c : Connection) :
    (beginStop b ticket ending c).table.work ≤ c.table.work + 2 := by
  unfold beginStop
  split
  next => exact Nat.le_add_right _ 2
  next process _ =>
    split
    next => exact Nat.le_add_right_of_le (Nat.le_of_eq (work_finishStop ..))
    next =>
      split
      next => exact Nat.le_add_right_of_le (Nat.le_of_eq (work_finishUnclean ..))
      next =>
        split
        next e after h =>
          have hwork := (work_finishUnclean ticket process e ending after).trans (work_send_error h)
          exact Nat.le_add_right_of_le (Nat.le_of_eq hwork)
        next id after h =>
          have hwait := work_wait ticket (.shuttingDown id process ending) after
          have hrank : Task.rank ⟨ticket, .shuttingDown id process ending⟩ = 1 := rfl
          have hsend := work_send h
          simp only
          split
          next =>
            have hexpire := work_expire ⟨ticket, .shuttingDown id process ending⟩
              (drainAll b (after.wait ticket (.shuttingDown id process ending)))
            have hdrain := work_drainAll (b := b) (after.wait ticket (.shuttingDown id process ending))
            omega
          next => omega

theorem work_askToExit (ticket process : Nat) (ending : Ending) (c : Connection) :
    (askToExit b ticket process ending c).table.work ≤ c.table.work + 1 := by
  unfold askToExit
  split
  next e after h =>
    obtain rfl := write_error h
    exact Nat.le_add_right_of_le (Nat.le_of_eq (work_finishUnclean ..))
  next after h => exact Nat.le_of_eq ((work_wait ..).trans (congrArg (· + 1) (work_notify h)))

theorem table_adopt {result : Json} {outcome : Except Failure Unit}
    (h : adopt result c = (outcome, d)) : d.table = c.table := by
  simp only [adopt] at h
  split at h <;> exact (Prod.mk.inj h).2 ▸ rfl

theorem work_becomeReady (ticket : Nat) (value : Json) (c : Connection) :
    (becomeReady ticket value c).table.work = c.table.work := by
  simp only [becomeReady]
  split <;> rfl

theorem work_onInitialized (ticket : Nat) (value : Json) (reply : Except Failure Json)
    (c : Connection) : (onInitialized b ticket value reply c).table.work ≤ c.table.work + 2 := by
  unfold onInitialized
  split
  next => exact work_beginStop ..
  next result _ =>
    split
    next e after h =>
      rw [← table_adopt h]
      exact work_beginStop ..
    next adopted h =>
      rw [← table_adopt h]
      split
      next e after h =>
        obtain rfl := write_error h
        exact work_beginStop ..
      next after h =>
        exact Nat.le_add_right_of_le (Nat.le_of_eq ((work_becomeReady ..).trans (work_notify h)))

theorem work_resume (t : Task) (reply : Except Failure Json) (c : Connection) :
    (resume b t reply c).table.work ≤ c.table.work + t.rank := by
  obtain ⟨ticket, stage⟩ := t
  cases stage with
  | initializing id value => exact work_onInitialized ..
  | calling id method => exact Nat.le_refl _
  | shuttingDown id process ending =>
      simp only [resume]
      split
      next => exact work_askToExit ..
      next => exact Nat.le_add_right_of_le (Nat.le_of_eq (work_finishUnclean ..))
  | leaving process ending => exact Nat.le_add_right_of_le (Nat.le_of_eq (work_finishStop ..))

theorem work_leave {t : Task} (ht : t ∈ c.tasks) (hleft : c.hasLeft t.stage = true) :
    (resume b t (.ok .null) (c.dropTask t.ticket)).table.work < c.table.work := by
  obtain ⟨ticket, stage⟩ := t
  cases stage with
  | leaving process ending =>
      have hrank : Task.rank ⟨ticket, .leaving process ending⟩ = 1 := rfl
      have hdrop := work_dropTask ht
      rw [hrank] at hdrop
      have hstop := work_finishStop ticket process ending (c.dropTask ticket)
      simp only [resume] at hdrop ⊢
      omega
  | initializing | calling | shuttingDown => simp [hasLeft] at hleft

theorem work_advance (h : advance? b c = some d) : d.table.work < c.table.work := by
  unfold advance? at h
  split at h
  next id reply rest hreplies =>
    have htaken : ({ c with replies := rest } : Connection).table.work + 1 = c.table.work := by
      simp only [Table.work, table, hreplies, List.length_cons]
      omega
    simp only at h
    split at h
    next =>
      obtain rfl := Option.some.inj h
      omega
    next t hsome =>
      obtain rfl := Option.some.inj h
      have ht : t ∈ ({ c with replies := rest } : Connection).tasks := List.mem_of_find?_eq_some hsome
      have hdrop := work_dropTask ht
      have hresume := work_resume (b := b) t reply
        (({ c with replies := rest } : Connection).dropTask t.ticket)
      omega
  next =>
    obtain ⟨t, hsome, rfl⟩ := Option.map_eq_some_iff.mp h
    exact work_leave (List.mem_of_find?_eq_some hsome) (by simpa using List.find?_some hsome)

/-- Everything is read, and no task has anything to go on with. -/
structure Settled (b : Behaviour) (c : Connection) : Prop where
  drained : Drained c
  stuck : advance? b c = none

theorem settleWithin_rests {advance : Connection → Option Connection}
    (goesOn : ∀ {c d}, advance c = some d → d.table.work < c.table.work) {bound : Nat}
    (h : c.table.work < bound) :
    Drained (settleWithin b advance bound c) ∧ advance (settleWithin b advance bound c) = none := by
  induction bound generalizing c with
  | zero => simp at h
  | succ bound ih =>
      simp only [settleWithin]
      split
      next hnone => exact ⟨drained_drainAll c, hnone⟩
      next d hsome =>
        have hadvance := goesOn hsome
        have hdrain := work_drainAll (b := b) c
        exact ih (by omega)

theorem settled_settle (c : Connection) : Settled b (settle b c) := by
  obtain ⟨hdrained, hstuck⟩ := settleWithin_rests (b := b) work_advance (work_lt_bound c)
  exact ⟨hdrained, hstuck⟩

theorem Settled.settle (h : Settled b c) : settle b c = c := by
  unfold Connection.settle settlingBound settleWithin
  simp only [h.drained.drainAll, h.stuck]

theorem advance?_eq_none : advance? b c = none ↔
    c.replies = [] ∧ ∀ t ∈ c.tasks, c.hasLeft t.stage = false := by
  unfold advance?
  split
  next hreplies => split <;> simp [hreplies]
  next hreplies => simp [hreplies]

theorem Settled.report (h : Settled b c) (ticket : Nat) (ending : Ending) :
    Settled b (c.report ticket ending) := by
  have hnone := advance?_eq_none.mp h.stuck
  exact ⟨h.drained, advance?_eq_none.mpr hnone⟩

theorem Settled.awaitWithin (h : Settled b c) (ticket bound : Nat) :
    Settled b (awaitWithin b ticket bound c) := by
  induction bound generalizing c with
  | zero => exact h
  | succ bound ih =>
      unfold Connection.awaitWithin
      split
      next => exact h
      next =>
        split
        next => exact h
        next => exact ih (settled_settle _)

theorem settled_step (e : Event) (c : Connection) : Settled b (step b c e) := by
  cases e with
  | stop ticket => exact (settled_settle _).awaitWithin ..
  | start | request | notify | output => exact settled_settle _

theorem settled_run {events : List Event} (h : Settled b c) : Settled b (run b c events) := by
  induction events generalizing c with
  | nil => exact h
  | cons e events ih => exact ih (settled_step e c)

theorem settled_fresh {command : List String} {root : Path} {timeout : Seconds} {ownId : Nat}
    (h : fresh command root timeout ownId = .ok c) : Settled b c := by
  obtain rfl := fresh_ok h
  exact ⟨fun i p hp => by simp at hp, rfl⟩

end Connection

end CodeAtlas.Wire
