import CodeAtlas.Proofs.Wire.Steps
import Mathlib.Logic.Relation

namespace CodeAtlas.Wire.Connection

open Relation (ReflTransGen)

variable {b : Behaviour} {c d : Connection}

/-- Processes act, and their output is read, message by message. -/
inductive Listens (b : Behaviour) (c : Connection) : Connection → Prop
  | acts (i : Nat) (acts : List Act) : Listens b c (c.setPeer i fun p => p.performAll acts)
  | reads (i bound : Nat) : Listens b c (drain b i bound c)

/-- What happens without a call: there is something to listen to, or a task goes on, or the deadline
of a stop passes. -/
inductive Happens (b : Behaviour) (c : Connection) : Connection → Prop
  | listens {d : Connection} (h : Listens b c d) : Happens b c d
  | goesOn {d : Connection} (h : advance? b c = some d) : Happens b c d
  | expires {t : Task} (ht : t ∈ c.tasks) (htimed : t.stage.isTimed = true) :
      Happens b c (expire t c)

/-- What happens when one caller makes all calls, each after the last one has ended. A start comes
first of all or after a stop. -/
inductive Alone (b : Behaviour) (c : Connection) : Connection → Prop
  | happens {d : Connection} (h : Happens b c d) : Alone b c d
  | starts (ticket : Nat) (value : Json) (hidle : c.tasks = []) (hstopped : c.initialized = false) :
      Alone b c (beginStart b ticket value c)
  | requests (ticket : Nat) (method : String) (params : Json) (hidle : c.tasks = []) :
      Alone b c (beginRequest b ticket method params c)
  | stops (ticket : Nat) (hidle : c.tasks = []) : Alone b c (beginStop b ticket (.ok .null) c)

def Event.isAlone (c : Connection) : Event → Bool
  | .start .. => c.tasks.isEmpty && !c.initialized
  | .request .. | .stop _ => c.tasks.isEmpty
  | .notify .. => false
  | .output _ => true

def isSequential (b : Behaviour) (c : Connection) : List Event → Bool
  | [] => true
  | e :: events => e.isAlone c && isSequential b (step b c e) events

theorem happens_settle (c : Connection) : ReflTransGen (Happens b) c (settle b c) :=
  settle_induction (P := ReflTransGen (Happens b) c)
    (drainAll_induction fun i bound _ hd => hd.tail (.listens (.reads i bound)))
    (fun hadvance hd => hd.tail (.goesOn hadvance)) .refl

theorem happens_awaitWithin (ticket bound : Nat) (c : Connection) :
    ReflTransGen (Happens b) c (awaitWithin b ticket bound c) := by
  induction bound generalizing c with
  | zero => exact .refl
  | succ bound ih =>
      unfold awaitWithin
      split
      next => exact .refl
      next =>
        split
        next => exact .refl
        next t hsome =>
          have htimed : t.stage.isTimed = true := by simpa using List.find?_some hsome
          have hexpire : Happens b c (expire t c) := .expires (List.mem_of_find?_eq_some hsome) htimed
          exact ((happens_settle _).head hexpire).trans (ih _)

theorem alone_step {e : Event} (h : e.isAlone c = true) :
    ReflTransGen (Alone b) c (step b c e) := by
  have lift {d d' : Connection} (h : ReflTransGen (Happens b) d d') : ReflTransGen (Alone b) d d' :=
    h.lift id fun _ _ => .happens
  cases e with
  | start ticket value =>
      obtain ⟨hidle, hstopped⟩ : c.tasks = [] ∧ c.initialized = false := by
        simpa [Event.isAlone] using h
      exact (lift (happens_settle _)).head (.starts ticket value hidle hstopped)
  | stop ticket =>
      have hidle : c.tasks = [] := by simpa [Event.isAlone] using h
      exact ((lift (happens_settle _)).head (.stops ticket hidle)).trans
        (lift (happens_awaitWithin ..))
  | request ticket method params =>
      have hidle : c.tasks = [] := by simpa [Event.isAlone] using h
      exact (lift (happens_settle _)).head (.requests ticket method params hidle)
  | notify => simp [Event.isAlone] at h
  | output acts => exact (lift (happens_settle _)).head (.happens (.listens (.acts _ acts)))

theorem alone_run {events : List Event} (h : isSequential b c events = true) :
    ReflTransGen (Alone b) c (run b c events) := by
  induction events generalizing c with
  | nil => exact .refl
  | cons e events ih =>
      obtain ⟨he, hrest⟩ := Bool.and_eq_true_iff.mp h
      exact (alone_step he).trans (ih hrest)

def posture (c : Connection) : Bool × List Task := (c.initialized, c.tasks)

theorem posture_eq {initialized : Bool} {tasks : List Task} :
    c.posture = (initialized, tasks) ↔ c.initialized = initialized ∧ c.tasks = tasks := by
  simp [posture]

theorem posture_tasks {initialized : Bool} {tasks : List Task} (h : c.posture = (initialized, tasks)) :
    c.tasks = tasks := (posture_eq.mp h).2

theorem posture_dropTask {initialized : Bool} {t : Task} (h : c.posture = (initialized, [t])) :
    (c.dropTask t.ticket).posture = (initialized, []) := by
  obtain ⟨hi, ht⟩ := posture_eq.mp h
  exact posture_eq.mpr ⟨hi, by simp [dropTask, ht]⟩

theorem isWaiting_of_posture {initialized : Bool} (h : c.posture = (initialized, [])) (ticket : Nat) :
    c.isWaiting ticket = false := by simp [isWaiting, posture_tasks h]

theorem posture_wait {initialized : Bool} (h : c.posture = (initialized, [])) (ticket : Nat)
    (stage : Stage) : (c.wait ticket stage).posture = (initialized, [⟨ticket, stage⟩]) := by
  obtain ⟨hi, ht⟩ := posture_eq.mp h
  exact posture_eq.mpr ⟨hi, by simp [wait, ht]⟩

theorem posture_write {message : Json} {answers : Bool} {outcome : Except Failure Unit}
    (h : write b message c answers = (outcome, d)) : d.posture = c.posture := by
  cases outcome with
  | error e => rw [write_error h]
  | ok _ =>
      obtain ⟨i, p, acts, -, -, -, rfl⟩ := write_ok h
      rfl

theorem posture_send {method : String} {params : Json} {outcome : Except Failure Nat}
    (h : send b method params c = (outcome, d)) : d.posture = c.posture := by
  unfold send at h
  split at h
  next => exact (Prod.mk.inj h).2 ▸ rfl
  next =>
    simp only at h
    split at h
    all_goals
      next written hw =>
        obtain ⟨-, rfl⟩ := Prod.mk.inj h
        exact (posture_write hw : written.posture = _)

theorem posture_dispatch {message : Json} {outcome : Except Failure Unit}
    (h : dispatch b message c = (outcome, d)) : d.posture = c.posture := by
  unfold dispatch at h
  split at h
  next =>
    split at h
    next => exact posture_write (c := c.note .debug _) h
    next => exact (Prod.mk.inj h).2 ▸ rfl
    next =>
      unfold deliver at h
      split at h
      next => exact (Prod.mk.inj h).2 ▸ rfl
      next => exact (Prod.mk.inj h).2 ▸ rfl
      next =>
        split at h
        next =>
          obtain ⟨-, rfl⟩ := Prod.mk.inj h
          split <;> rfl
        next => exact (Prod.mk.inj h).2 ▸ rfl
  all_goals exact (Prod.mk.inj h).2 ▸ rfl

theorem posture_breakReading (i : Nat) (e : Failure) (c : Connection) :
    (c.breakReading i e).posture = c.posture := by
  unfold breakReading
  split <;> rfl

theorem posture_drain (i bound : Nat) (c : Connection) :
    (drain b i bound c).posture = c.posture :=
  drain_induction (P := fun d => d.posture = c.posture) (fun _ h => h)
    (fun d e h => (posture_breakReading i e d).trans h)
    (fun {d _ _ _ _} hd h => (posture_dispatch (c := d.setPeer i _) hd).trans h) bound rfl

theorem current_drain (i bound : Nat) (c : Connection) :
    (drain b i bound c).current = c.current :=
  drain_induction (P := fun d => d.current = c.current) (fun _ h => h)
    (fun d e h => by
      unfold breakReading
      split <;> exact h)
    (fun hd h => (dispatch_cases hd).1.held.trans h) bound rfl

theorem Listens.quietly (h : Listens b c d) :
    Quietly b c d ∧ d.posture = c.posture ∧ d.current = c.current := by
  cases h with
  | acts i acts => exact ⟨(Move.acts c i acts).quietly (by simp), rfl, rfl⟩
  | reads i bound =>
      exact ⟨quietly_drain i bound c, posture_drain i bound c, current_drain i bound c⟩

theorem quietly_listens (h : ReflTransGen (Listens b) c d) :
    Quietly b c d ∧ d.posture = c.posture ∧ d.current = c.current := by
  induction h with
  | refl => exact ⟨.refl c, rfl, rfl⟩
  | tail _ last ih =>
      obtain ⟨hq, hp, hc⟩ := last.quietly
      exact ⟨ih.1.trans hq, hp.trans ih.2.1, hc.trans ih.2.2⟩

theorem posture_drainAll (c : Connection) : (drainAll b c).posture = c.posture :=
  drainAll_induction (P := fun d => d.posture = c.posture)
    (fun i bound d hd => (posture_drain i bound d).trans hd) rfl

theorem posture_finishStop (ticket process : Nat) (ending : Ending) (c : Connection) :
    (finishStop ticket process ending c).posture = (false, c.tasks) := by
  obtain ⟨e, -, heq⟩ | ⟨i, -, -, heq⟩ | ⟨-, heq⟩ := finishStop_cases ticket process ending c
  all_goals exact heq ▸ rfl

theorem posture_finishUnclean (ticket process : Nat) (e : Failure) (ending : Ending)
    (c : Connection) : (finishUnclean ticket process e ending c).posture = (false, c.tasks) := by
  unfold finishUnclean
  split <;> exact posture_finishStop ..

theorem posture_adopt {result : Json} {outcome : Except Failure Unit}
    (h : adopt result c = (outcome, d)) : d.posture = c.posture := by
  simp only [adopt] at h
  split at h <;> exact (Prod.mk.inj h).2 ▸ rfl

theorem posture_becomeReady (ticket : Nat) (value : Json) (c : Connection) :
    (becomeReady ticket value c).posture = (true, c.tasks) := by
  simp only [becomeReady]
  split <;> rfl

theorem isRunning_of_uninitialized (h : c.initialized = false) : c.isRunning = false := by
  simp [isRunning, h]

theorem beginStop_of_uninitialized (h : c.initialized = false) (ticket : Nat) (ending : Ending) :
    beginStop b ticket ending c =
      match c.current with
      | none => c.report ticket ending
      | some process => finishStop ticket process ending c := by
  unfold beginStop
  cases c.current with
  | none => rfl
  | some process => simp [isRunning_of_uninitialized h]

end CodeAtlas.Wire.Connection
