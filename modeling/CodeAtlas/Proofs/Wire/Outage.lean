import CodeAtlas.Proofs.Wire.Pipes

namespace CodeAtlas.Wire.Connection

variable {b : Behaviour} {c d : Connection} {account : List Incident}

theorem replyIn?_cases {id : Nat} {reply : Except Failure Json}
    (h : replyIn? id account = some reply) :
    reply = .error (.unavailable .exited) ∨
      ∃ message, reply = .ok message ∧ .heard message ∈ account ∧ isReplyTo id message = true := by
  obtain ⟨i, hi, hsettles⟩ := List.exists_of_findSome?_eq_some h
  cases i with
  | heard message =>
      simp only [Incident.settles?, Option.ite_none_right_eq_some, Option.some.injEq] at hsettles
      exact .inr ⟨message, hsettles.2.symm, hi, hsettles.1⟩
  | cut => exact .inl (Option.some.inj hsettles).symm
  | _ => simp [Incident.settles?] at hsettles

/-- A request got its reply, and its task took it up or is about to. -/
def Resolved (account : List Incident) (c : Connection) (t : Task) (after : List Incident)
    (id : Nat) (method : String) : Prop :=
  ∃ reply, replyIn? id after = some reply ∧
    (reply = .error (.unavailable .exited) ∨
      ∃ message, reply = .ok message ∧ .heard message ∈ after ∧ isReplyTo id message = true) ∧
    (CompletedWith account t (reply.bind (resultOf method)) ∨ (id, reply) ∈ c.replies)

/-- A request was given up: with a stop whose deadline passed, or because the
pipe broke under it, which is what a call then fails for. -/
def GivenUp (c : Connection) (after : List Incident) (id : Nat) : Prop :=
  ∃ u, u.id? = some id ∧
    (.dropped u ∈ after ∧ u.stage.isTimed = true ∨
      ∃ reason, .broken u reason ∈ after ∧ ∀ n method, u.stage = .calling n method →
        (u.ticket, .error (.unavailable (.pipeClosed reason))) ∈ c.finished)

theorem Served.resolved (h : Served b account c) {before after : List Incident} {t : Task}
    {params : Json} {id : Nat} {method : String} (heq : account = before ++ .asked t params :: after)
    (hq : t.stage.question? = some (id, method)) (hid : id ∉ c.pending) :
    Resolved account c t after id method ∨ GivenUp c after id := by
  have hmem {i : Incident} (hi : i ∈ after) : i ∈ account :=
    heq ▸ List.mem_append_right _ (List.mem_cons_of_mem _ hi)
  by_cases hdrop : ∃ i ∈ after, i.droppedId? = some id
  · obtain ⟨i, hi, hdropped⟩ := hdrop
    cases i with
    | dropped u => exact .inr ⟨u, hdropped, .inl ⟨hi, h.deadlines (hmem hi)⟩⟩
    | broken u reason =>
        exact .inr ⟨u, hdropped, .inr ⟨reason, hi, fun _ _ hu => h.breaks (hmem hi) hu⟩⟩
    | _ => simp [Incident.droppedId?] at hdropped
  · have hkept : ∀ i ∈ after, i.droppedId? ≠ some id := fun i hi he => hdrop ⟨i, hi, he⟩
    cases hreply : replyIn? id after with
    | none => exact absurd (h.waiting heq hq hkept hreply).1 hid
    | some reply =>
        have hdone := (h.completion heq hq hkept hreply).2
        exact .inl ⟨reply, hreply, replyIn?_cases hreply, hdone.imp_right And.left⟩

theorem Tracked.awaiting (h : Tracked account c) {t : Task} (ht : t ∈ c.tasks) {id : Nat}
    {method : String} (hq : t.stage.question? = some (id, method)) :
    id ∈ c.pending ∨ ∃ reply, (id, reply) ∈ c.replies := by
  have hopen := ((h.tasks t id (Task.id?_eq_some.mpr ⟨method, hq⟩)).mp ht).2
  cases hp : phase id account with
  | waiting => exact .inl ((h.waiting id).mpr hp)
  | answered reply => exact .inr ⟨reply, (h.answered id reply).mpr hp⟩
  | unasked | completed | dropped => simp [hp, Phase.isOpen] at hopen

theorem beginRequest_refused (h : c.isReading = false) (ticket : Nat) (method : String)
    (params : Json) : beginRequest b ticket method params c =
      c.report ticket (.error (.unavailable (.notRunning method))) := by
  rw [beginRequest, isRunning_of_notReading h]
  rfl

theorem step_request_refused (h : c.isReading = false) (hs : Settled b c) (ticket : Nat)
    (method : String) (params : Json) : step b c (.request ticket method params) =
      c.report ticket (.error (.unavailable (.notRunning method))) := by
  show settle b (beginRequest b ticket method params c) = _
  rw [beginRequest_refused h]
  exact (hs.report ..).settle

theorem step_request_refused_piped (h : c.isReading = false) {held : List Nat}
    (hs : Piped.Rested b ⟨c, held⟩) (ticket : Nat) (method : String) (params : Json) :
    Piped.step b ⟨c, held⟩ (.goes (.request ticket method params)) =
      ⟨c.report ticket (.error (.unavailable (.notRunning method))), held⟩ := by
  rw [Piped.step, Piped.begin, begin, beginRequest_refused h]
  exact (hs.report ..).settle

/-- What a call that a full pipe holds back comes to: its outcome is fixed
already, and is what it reports when the pipe takes its message. It fails if
the pipe breaks first. -/
def Awaits (b : Behaviour) (held : List Nat) (c : Connection) (t : Task) (id : Nat) : Prop :=
  t.ticket ∈ held ∧ ∃ reply, (id, reply) ∈ c.replies ∧ ∀ method, t.stage = .calling id method →
    (t.ticket, reply.bind (resultOf method)) ∈
        (Piped.step b ⟨c, held⟩ (.takes t.ticket)).connection.finished ∧
      ∀ reason, (t.ticket, .error (.unavailable (.pipeClosed reason))) ∈
        (Piped.step b ⟨c, held⟩ (.breaks t.ticket reason)).connection.finished

theorem Tracked.held_back (h : Tracked account c) (hpending : c.pending = []) {held : List Nat}
    (hrest : Piped.Rested b ⟨c, held⟩) {t : Task} (ht : t ∈ c.tasks) {id : Nat} {method : String}
    (hq : t.stage.question? = some (id, method)) : Awaits b held c t id := by
  have ha : t.stage.awaits id = true := Stage.awaits_iff.mpr ⟨method, hq⟩
  obtain hwaits | ⟨reply, hreply⟩ := h.awaiting ht hq
  · simp [hpending] at hwaits
  · -- its reply is there, so what it waits for is the pipe
    have hheld := (advanceBut_eq_none.mp hrest.stuck).1 (id, reply) hreply
    obtain ⟨u, hu, hua⟩ := List.any_eq_true.mp hheld
    obtain ⟨hua, hmem⟩ : u.stage.awaits id = true ∧ u.ticket ∈ held := by simpa using hua
    obtain rfl := h.awaiter_unique ht hu ha hua
    refine ⟨hmem, reply, hreply, fun method' hstage => ⟨?_, fun reason => ?_⟩⟩
    · exact Piped.takes_returns h hrest ht hstage hreply
    · exact Piped.breaks_returns h ht hmem hstage reason

/-- Once the reading has ended, every request has its reply if that came
first and a failure otherwise, nobody waits but for a pipe that holds a
message back, and until the next launch every call for a reply is refused and
changes nothing else. -/
theorem outage_resolves_requests {command : List String} {root : Path} {timeout : Seconds}
    {ownId : Nat} {c₀ : Connection} (b : Behaviour) (h : fresh command root timeout ownId = .ok c₀)
    {account : List Incident} {c : Connection} (hm : Moves b c₀ account c)
    (hended : c.isReading = false) :
    c.pending = [] ∧
    (∀ before t params after id method, account = before ++ .asked t params :: after →
      t.stage.question? = some (id, method) →
      Resolved account c t after id method ∨ GivenUp c after id) ∧
    (Settled b c → c.replies = [] ∧ ∀ t ∈ c.tasks, t.stage.question? = none) ∧
    (∀ held, Piped.Rested b ⟨c, held⟩ → ∀ t ∈ c.tasks, ∀ id method,
      t.stage.question? = some (id, method) → Awaits b held c t id) ∧
    ∀ later d, Moves b c later d → .launched ∉ later → ∀ ticket method params,
      beginRequest b ticket method params d =
          d.report ticket (.error (.unavailable (.notRunning method))) ∧
        (Settled b d → step b d (.request ticket method params) =
          d.report ticket (.error (.unavailable (.notRunning method)))) ∧
        ∀ held, Piped.Rested b ⟨d, held⟩ →
          Piped.step b ⟨d, held⟩ (.goes (.request ticket method params)) =
            ⟨d.report ticket (.error (.unavailable (.notRunning method))), held⟩ := by
  have htracked : Tracked account c := hm.tracked (.start h)
  have hserved : Served b account c := htracked.served hm (fresh_ok h ▸ rfl)
  have hpending : c.pending = [] := htracked.idle hended
  refine ⟨hpending, fun before t params after id method heq hq => ?_, fun hrest => ?_,
    fun held hrest t ht id method hq => htracked.held_back hpending hrest ht hq, ?_⟩
  · exact hserved.resolved heq hq (by simp [hpending])
  · refine ⟨(advance?_eq_none.mp hrest.stuck).1, fun t ht => ?_⟩
    refine Option.eq_none_iff_forall_ne_some.mpr fun q hq => ?_
    have hheld := htracked.held_back hpending (Piped.rested_of_settled hrest) ht hq
    exact absurd hheld.1 List.not_mem_nil
  · intro later d hd hl ticket method params
    have hreading : d.isReading = false := (hd.wanes hl).notReading hended
    exact ⟨beginRequest_refused hreading .., fun hs => step_request_refused hreading hs ..,
      fun held hs => step_request_refused_piped hreading hs ..⟩

/-- Two requests meet a full pipe. The server answers one of them and closes
its output. -/
def closing : List Piped.Event :=
  [.goes (.start 0 (.int 7)), .goes (.output [emits (answer (.int 1) (.object []))]),
    .holds (.request 1 "a" .null), .holds (.request 2 "b" .null),
    .goes (.output [emits (answer (.int 3) (.int 30)), .close])]

def closed : Piped := Piped.run silent ⟨sampleStart, []⟩ closing

theorem outage_resolves_requests_closing :
    fresh ["server"] ⟨.root, []⟩ (.whole 5) 1 = .ok sampleStart ∧
    ∃ account, Moves silent sampleStart account closed.connection ∧
      closed.connection.isReading = false ∧ closed.connection.pending = [] ∧
      closed.held = [1, 2] ∧
      (closed.connection.finished.map fun r => (r.1, Ending.shown r.2)) = [(0, "7")] ∧
      (((Piped.run silent closed [.takes 2, .takes 1]).connection.finished.map fun r =>
          (r.1, Ending.shown r.2)) =
        [(0, "7"), (2, "30"), (1, "Language server exited")]) ∧
      (∀ t ∈ closed.connection.tasks, ∀ id method, t.stage.question? = some (id, method) →
        Awaits silent [1, 2] closed.connection t id) ∧
      Piped.step silent closed (.goes (.request 3 "c" .null)) =
        ⟨closed.connection.report 3 (.error (.unavailable (.notRunning "c"))), [1, 2]⟩ := by
  have hstart : fresh ["server"] ⟨.root, []⟩ (.whole 5) 1 = .ok sampleStart := rfl
  have hdistinct : (closing.filterMap Piped.Event.ticket?).Nodup := by decide
  have hfree : ∀ ticket ∈ closing.filterMap Piped.Event.ticket?,
      sampleStart.isWaiting ticket = false := fun _ _ => rfl
  have hmoves := Piped.moves_run (b := silent) (p := ⟨sampleStart, []⟩) hdistinct hfree
  obtain ⟨hended, hheld, hfinished, htaken⟩ : closed.connection.isReading = false ∧
      closed.held = [1, 2] ∧
      (closed.connection.finished.map fun r => (r.1, Ending.shown r.2)) = [(0, "7")] ∧
      (((Piped.run silent closed [.takes 2, .takes 1]).connection.finished.map fun r =>
          (r.1, Ending.shown r.2)) =
        [(0, "7"), (2, "30"), (1, "Language server exited")]) := by decide +kernel
  have hrested : Piped.Rested silent closed :=
    Piped.rested_run (Piped.rested_of_settled (settled_fresh hstart))
  change ∃ account, Moves silent sampleStart account closed.connection at hmoves
  generalize closed = p at hended hheld hfinished htaken hrested hmoves ⊢
  obtain ⟨account, hm⟩ := hmoves
  obtain ⟨c, held⟩ := p
  obtain rfl : held = [1, 2] := hheld
  obtain ⟨hpending, -, -, hwaits, hlater⟩ := outage_resolves_requests silent hstart hm hended
  have hrefused := (hlater [] c .refl List.not_mem_nil 3 "c" .null).2.2 [1, 2] hrested
  exact ⟨hstart, account, hm, hended, hpending, rfl, hfinished, htaken, hwaits _ hrested, hrefused⟩

end CodeAtlas.Wire.Connection
