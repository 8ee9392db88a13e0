import CodeAtlas.Proofs.Wire.Table

namespace CodeAtlas.Wire

namespace Connection

inductive Incident
  | launched
  | asked (task : Task) (params : Json)
  | told (method : String) (params : Json)
  | heard (message : Json)
  | answered (id : Json)
  | unanswered (id : Json) (failure : Failure)
  | cut
  | completed (task : Task) (outcome : Except Failure Json)
  | dropped (task : Task)
  | broken (task : Task) (reason : String)
  | leaving (ticket : Nat)
  | left (ticket : Nat)

def Incident.ticket? : Incident → Option Nat
  | .asked t _ | .completed t _ | .dropped t | .broken t _ => some t.ticket
  | .leaving ticket | .left ticket => some ticket
  | _ => none

/-- What is heard of a message, and of its answer if it is a request. -/
def hearing (message : Json) (outcome : Except Failure Unit) : List Incident :=
  .heard message ::
    match askedBack? message, outcome with
    | none, _ => []
    | some id, .ok () => [.answered id]
    | some id, .error e => [.unanswered id e]

/-- A task is done with its request; only a call reports what came of it. -/
def handOver (t : Task) (outcome : Except Failure Json) (c : Connection) : Connection :=
  match t.stage with
  | .calling _ _ => (c.dropTask t.ticket).report t.ticket outcome
  | _ => c.dropTask t.ticket

inductive Move (b : Behaviour) : Connection → List Incident → Connection → Prop
  | acts (c) (i : Nat) (acts : List Act) : Move b c [] (c.setPeer i fun p => p.performAll acts)
  | records (c) (initialized : Bool) (capabilities serverInfo : Json)
      (reports : List (Nat × Ending)) (log : List LogEntry) :
      Move b c [] { c with
        initialized, capabilities, serverInfo, log, finished := c.finished ++ reports }
  | launches (c) (h : b.launch c.processes.length c.command = .ok ()) : Move b c [.launched] { c with
      processes := c.processes ++ [Peer.fresh c.root.toText]
      current := some c.processes.length }
  | asks {c d : Connection} {t : Task} {id : Nat} {method : String} {params : Json}
      (h : send b method params c = (.ok id, d)) (hq : t.stage.question? = some (id, method))
      (hfree : c.isWaiting t.ticket = false) :
      Move b c [.asked t params] (d.wait t.ticket t.stage)
  | asksInVain {c d : Connection} {method : String} {params : Json} {e : Failure}
      (h : send b method params c = (.error e, d)) : Move b c [] d
  | tells {c d : Connection} {method : String} {params : Json}
      (h : notify b method params c = (.ok (), d)) : Move b c [.told method params] d
  | hears {c d : Connection} {i : Nat} {p : Peer} {message : Json} {rest : List UInt8}
      {outcome : Except Failure Unit} (hp : c.processes[i]? = some p) (hr : p.isReading = true)
      (hn : next p.closed p.output = .message message rest) (hnull : message.isNull = false)
      (h : dispatch b message (c.setPeer i fun p => { p with output := rest }) = (outcome, d)) :
      Move b c (hearing message outcome) d
  | closes {c : Connection} {i : Nat} {p : Peer} (hp : c.processes[i]? = some p)
      (hr : p.isReading = true) : Move b c [.cut] (c.endReading i .finished)
  | dies {c d : Connection} {i : Nat} {p : Peer} {message : Json} {rest : List UInt8} {e : Failure}
      (hp : c.processes[i]? = some p) (hr : p.isReading = true)
      (hn : next p.closed p.output = .message message rest) (hnull : message.isNull = false)
      (h : dispatch b message (c.setPeer i fun p => { p with output := rest }) = (.error e, d))
      (he : (e.isService || e.isRefusal) = false) :
      Move b c (hearing message (.error e) ++ [.cut]) (d.endReading i (.died e))
  | stops (c) (ticket process : Nat) (ending : Ending) :
      Move b c [.cut] (finishStop ticket process ending c)
  | completes {c : Connection} {t : Task} {id : Nat} {method : String} {reply : Except Failure Json}
      {rest : List (Nat × Except Failure Json)} (h : c.replies = (id, reply) :: rest)
      (ht : t ∈ c.tasks) (hq : t.stage.question? = some (id, method)) :
      Move b c [.completed t (reply.bind (resultOf method))]
        (handOver t (reply.bind (resultOf method)) { c with replies := rest })
  | discards {c : Connection} {id : Nat} {reply : Except Failure Json}
      {rest : List (Nat × Except Failure Json)} (h : c.replies = (id, reply) :: rest)
      (hn : ∀ t ∈ c.tasks, t.stage.awaits id = false) : Move b c [] { c with replies := rest }
  | awaitsEnd (c) (ticket process : Nat) (ending : Ending) (hfree : c.isWaiting ticket = false) :
      Move b c [.leaving ticket] (c.wait ticket (.leaving process ending))
  | seesEnd {c : Connection} {t : Task} (ht : t ∈ c.tasks) (hq : t.stage.question? = none) :
      Move b c [.left t.ticket] (c.dropTask t.ticket)
  | drops {c : Connection} {t : Task} {id : Nat} {method : String} (ht : t ∈ c.tasks)
      (hq : t.stage.question? = some (id, method)) (htimed : t.stage.isTimed = true) :
      Move b c [.dropped t] ((c.dropTask t.ticket).forget id)
  | reorders {c : Connection} {replies : List (Nat × Except Failure Json)}
      (h : replies.Perm c.replies) : Move b c [] { c with replies }
  | breaks {c : Connection} {t : Task} {id : Nat} {method : String} (reason : String)
      (ht : t ∈ c.tasks) (hq : t.stage.question? = some (id, method)) :
      Move b c [.broken t reason]
        (handOver t (.error (.unavailable (.pipeClosed reason))) (c.forget id))

/-- The account of some moves in a row. -/
inductive Moves (b : Behaviour) (c : Connection) : List Incident → Connection → Prop
  | refl : Moves b c [] c
  | tail {d e : Connection} {account incidents : List Incident} (h : Moves b c account d)
      (last : Move b d incidents e) : Moves b c (account ++ incidents) e

variable {b : Behaviour} {c d e : Connection} {account later incidents : List Incident}

theorem Move.moves (h : Move b c incidents d) : Moves b c incidents d := .tail .refl h

theorem Moves.trans (h : Moves b c account d) (h' : Moves b d later e) :
    Moves b c (account ++ later) e := by
  induction h' with
  | refl => simpa using h
  | tail _ last ih =>
      rw [← List.append_assoc]
      exact ih.tail last

theorem handOver_tasks (t : Task) (outcome : Except Failure Json) (c : Connection) :
    (handOver t outcome c).tasks = c.tasks.filter fun u => u.ticket != t.ticket := by
  unfold handOver
  split <;> rfl

theorem Move.tasks (h : Move b c incidents d) :
    d.tasks = c.tasks ∨
    (∃ t : Task, c.isWaiting t.ticket = false ∧ d.tasks = c.tasks ++ [t] ∧
      ∃ i ∈ incidents, i.ticket? = some t.ticket) ∨
    ∃ t ∈ c.tasks, (d.tasks = c.tasks.filter fun u => u.ticket != t.ticket) ∧
      ∃ i ∈ incidents, i.ticket? = some t.ticket := by
  cases h with
  | acts | records | launches | closes | discards | reorders => exact .inl rfl
  | @asks d t _ _ _ h hq hfree =>
      obtain ⟨-, -, -, ht⟩ := send_ok h
      have htasks : d.tasks = c.tasks := congrArg Table.tasks ht
      exact .inr (.inl ⟨t, hfree, by rw [wait, htasks], _, List.mem_singleton_self _, rfl⟩)
  | asksInVain h =>
      obtain ⟨-, n, -, ht⟩ := send_error h
      exact .inl (congrArg Table.tasks ht)
  | tells h => exact .inl (congrArg Table.tasks (table_write h).2)
  | hears hp hr hn hnull h =>
      obtain ⟨-, ⟨_, -, -, ht⟩ | ⟨_, -, -, -, ht⟩ | ⟨-, -, ht⟩⟩ := dispatch_cases h
      all_goals exact .inl (congrArg Table.tasks ht)
  | dies hp hr hn hnull h he => exact .inl (congrArg Table.tasks (dispatch_error h).2)
  | stops ticket process ending => exact .inl (finishStop_reports ticket process ending c).1
  | completes _ ht _ | breaks _ ht _ =>
      exact .inr (.inr ⟨_, ht, handOver_tasks .., _, List.mem_singleton_self _, rfl⟩)
  | awaitsEnd ticket process ending hfree =>
      exact .inr (.inl ⟨_, hfree, rfl, _, List.mem_singleton_self _, rfl⟩)
  | seesEnd ht hq => exact .inr (.inr ⟨_, ht, rfl, _, List.mem_singleton_self _, rfl⟩)
  | drops ht hq htimed => exact .inr (.inr ⟨_, ht, rfl, _, List.mem_singleton_self _, rfl⟩)

theorem Move.wanes (h : Move b c incidents d) (hl : Incident.launched ∉ incidents) : Wanes c d := by
  cases h with
  | acts i acts => exact (steady_acts i acts c).toWanes
  | records | discards | awaitsEnd | seesEnd | drops | reorders => exact .of_eq rfl rfl
  | launches h => simp at hl
  | asks h hq hfree =>
      obtain ⟨-, -, hs, -⟩ := send_ok h
      exact hs.toWanes.trans (.of_eq rfl rfl)
  | asksInVain h => exact (send_error h).1.toWanes
  | tells h => exact (table_write h).1.toWanes
  | @hears _ i _ _ rest _ hp hr hn hnull h =>
      exact ((steady_taken i rest c).trans (dispatch_cases h).1).toWanes
  | closes hp hr =>
      refine wanes_endReading (fun {q} hq => ?_) _
      obtain rfl : _ = q := Option.some.inj (hp.symm.trans hq)
      exact hr
  | @dies d i p _ rest _ hp hr hn hnull h he =>
      have hheard := ((steady_taken i rest c).trans (dispatch_cases h).1).toWanes
      refine hheard.trans (wanes_endReading (fun {q} hq => ?_) _)
      rw [(dispatch_error h).1, setPeer_self hp] at hq
      obtain rfl := Option.some.inj hq
      exact hr
  | stops ticket process ending => exact wanes_finishStop ticket process ending c
  | completes | breaks => unfold handOver; split <;> exact .of_eq rfl rfl

theorem Move.finished (h : Move b c incidents d) : ∃ reports, d.finished = c.finished ++ reports := by
  have same {e : Connection} (h : e.finished = c.finished) :
      ∃ reports, e.finished = c.finished ++ reports := ⟨[], by rw [h, List.append_nil]⟩
  cases h with
  | acts | launches | closes | discards | awaitsEnd | seesEnd | drops | reorders => exact same rfl
  | records => exact ⟨_, rfl⟩
  | asks h hq hfree =>
      obtain ⟨-, -, -, ht⟩ := send_ok h
      exact same (congrArg Table.finished ht)
  | asksInVain h =>
      obtain ⟨-, n, -, ht⟩ := send_error h
      exact same (congrArg Table.finished ht)
  | tells h => exact same (congrArg Table.finished (table_write h).2)
  | hears hp hr hn hnull h =>
      obtain ⟨-, ⟨_, -, -, ht⟩ | ⟨_, -, -, -, ht⟩ | ⟨-, -, ht⟩⟩ := dispatch_cases h
      all_goals exact same (congrArg Table.finished ht)
  | dies hp hr hn hnull h he => exact same (congrArg Table.finished (dispatch_error h).2)
  | stops ticket process ending =>
      obtain ⟨-, last, hf⟩ := finishStop_reports ticket process ending c
      exact ⟨_, hf⟩
  | completes | breaks =>
      unfold handOver
      split
      · exact ⟨_, rfl⟩
      · exact same rfl

theorem isWaiting_iff {ticket : Nat} :
    c.isWaiting ticket = true ↔ ∃ t ∈ c.tasks, t.ticket = ticket := by
  simp [isWaiting]

theorem Moves.wanes (h : Moves b c account d) (hl : Incident.launched ∉ account) : Wanes c d := by
  induction h with
  | refl => exact .refl c
  | tail _ last ih =>
      rw [List.mem_append, not_or] at hl
      exact (ih hl.1).trans (last.wanes hl.2)

theorem Moves.finished (h : Moves b c account d) : ∃ reports, d.finished = c.finished ++ reports := by
  induction h with
  | refl => exact ⟨[], (List.append_nil _).symm⟩
  | tail _ last ih =>
      obtain ⟨reports, h⟩ := ih
      obtain ⟨more, h'⟩ := last.finished
      exact ⟨reports ++ more, by rw [h', h, List.append_assoc]⟩

theorem Moves.stays (h : Moves b c account d) {t : Task} (ht : t ∈ c.tasks)
    (hother : ∀ i ∈ account, i.ticket? ≠ some t.ticket) : t ∈ d.tasks := by
  induction h with
  | refl => exact ht
  | tail _ last ih =>
      rw [List.forall_mem_append] at hother
      have hmem := ih hother.1
      obtain heq | ⟨u, -, heq, -⟩ | ⟨u, -, heq, i, hi, hticket⟩ := last.tasks
      · exact heq ▸ hmem
      · exact heq ▸ List.mem_append_left _ hmem
      · -- a task goes only with its own ticket
        have hne : t.ticket ≠ u.ticket := fun he => hother.2 i hi (he ▸ hticket)
        exact heq ▸ List.mem_filter.mpr ⟨hmem, by simpa using hne⟩

theorem Moves.waits (h : Moves b c account d) {ticket : Nat} (hd : d.isWaiting ticket = true) :
    c.isWaiting ticket = true ∨ ∃ i ∈ account, i.ticket? = some ticket := by
  induction h with
  | refl => exact .inl hd
  | @tail d e account incidents _ last ih =>
      obtain ⟨t, ht, rfl⟩ := isWaiting_iff.mp hd
      have hcases : t ∈ d.tasks ∨ ∃ i ∈ incidents, i.ticket? = some t.ticket := by
        obtain heq | ⟨u, -, heq, hu⟩ | ⟨u, -, heq, -⟩ := last.tasks <;> rw [heq] at ht
        · exact .inl ht
        · obtain ht | ht := List.mem_append.mp ht
          · exact .inl ht
          · exact .inr (List.mem_singleton.mp ht ▸ hu)
        · exact .inl (List.mem_filter.mp ht).1
      obtain hmem | ⟨i, hi, hticket⟩ := hcases
      · obtain hc | ⟨i, hi, hticket⟩ := ih (isWaiting_iff.mpr ⟨t, hmem, rfl⟩)
        · exact .inl hc
        · exact .inr ⟨i, List.mem_append_left _ hi, hticket⟩
      · exact .inr ⟨i, List.mem_append_right _ hi, hticket⟩

end Connection

end CodeAtlas.Wire
