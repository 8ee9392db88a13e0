import CodeAtlas.Proofs.Wire.Rest
import CodeAtlas.Proofs.Wire.Tracking

namespace CodeAtlas.Wire.Connection

variable {b : Behaviour} {c d : Connection} {account incidents : List Incident}

def IsId : Json → Prop
  | .null | .int _ | .real _ | .text _ | .unpaired _ => True
  | _ => False

/-- An object with a proper id, if any; what it holds for an error is an
object with an integer for its code, if any. -/
def IsRpc (message : Json) : Prop :=
  ∃ fields, message = .object fields ∧ (∀ id, fields.lookup "id" = some id → IsId id) ∧
    ∀ error, fields.lookup "error" = some error → error.truthy = true →
      ∃ entries, error = .object entries ∧
        ∀ code, entries.lookup "code" = some code → ∃ n, code = .int n

def verdict (method : String) (message : Json) : Except Failure Json :=
  let error := (message.get? "error").getD .null
  if error.truthy then
    .error (.rejected method ((error.get? "code").getD (.int 0))
      ((error.get? "message").getD (.text "")) ((error.get? "data").getD .null))
  else .ok ((message.get? "result").getD .null)

theorem resultOf_rpc (method : String) {message : Json} (h : IsRpc message) :
    resultOf method message = verdict method message := by
  obtain ⟨fields, rfl, -, herror⟩ := h
  have hresult : (Json.object fields).field "result" = .ok (fields.lookup "result") := rfl
  have hfield : (Json.object fields).field "error" = .ok (fields.lookup "error") := rfl
  have hget (key : String) : (Json.object fields).get? key = fields.lookup key := rfl
  rw [resultOf, verdict, hfield, hresult, hget, hget]
  simp only [bind, Except.bind, pure, Except.pure]
  split
  next htruthy =>
    obtain ⟨error, he⟩ : ∃ error, fields.lookup "error" = some error := by
      cases he : fields.lookup "error" with
      | none => simp [he, Json.truthy] at htruthy
      | some error => exact ⟨error, rfl⟩
    simp only [he, Option.getD_some] at htruthy ⊢
    obtain ⟨entries, rfl, hcode⟩ := herror error he htruthy
    cases hc : entries.lookup "code" with
    | none => simp [Json.field, Json.get?, hc, Json.toInteger, throw, throwThe, MonadExceptOf.throw]
    | some code =>
        obtain ⟨n, rfl⟩ := hcode code hc
        simp [Json.field, Json.get?, hc, Json.toInteger, throw, throwThe, MonadExceptOf.throw]
  next => rfl

def Incident.written? : Incident → Option Json
  | .asked t params => t.stage.question?.map fun q => request q.1 q.2 params
  | .told method params => some (notification method params)
  | .answered id => some (emptyAnswer id)
  | _ => none

def Incident.heardId? : Incident → Option Json
  | .heard message => askedBack? message
  | _ => none

/-- The requests of the server that were answered, or could not be. -/
def Incident.servedId? : Incident → Option Json
  | .answered id | .unanswered id _ => some id
  | _ => none

/-- Why a message was not sent: no bytes can be written for it, no process
is at hand, or the pipe is closed. -/
def Unwritable (b : Behaviour) (message : Json) (e : Failure) : Prop :=
  frameOf message = .error e ∨ e = .unavailable .notStarted ∨
    ∃ i received reason, b.react i received message = .refuse reason ∧
      e = .unavailable (.pipeClosed reason)

theorem write_failure {message : Json} {answers : Bool} {e : Failure}
    (h : write b message c answers = (.error e, d)) : Unwritable b message e := by
  unfold write at h
  split at h
  next i p _ _ =>
    split at h
    next e' hframe =>
      obtain rfl : e' = e := Except.error.inj (Prod.mk.inj h).1
      exact .inl hframe
    next =>
      split at h
      next reason hrefuse =>
        have he := (Except.error.inj (Prod.mk.inj h).1).symm
        exact .inr (.inr ⟨i, p.received, reason, hrefuse, he⟩)
      next => simp at h
  next => exact .inr (.inl (Except.error.inj (Prod.mk.inj h).1).symm)

theorem dispatch_askedBack {message id : Json} (h : askedBack? message = some id) (c : Connection) :
    ∃ text, dispatch b message c = answerNull b id (c.note .debug text) := by
  cases message with
  | object fields =>
      cases hm : fields.lookup "method" with
      | none => simp [askedBack?, hm] at h
      | some method =>
          have hid : fields.lookup "id" = some id := by simpa [askedBack?, hm] using h
          exact ⟨incomingNote method true, by simp [dispatch, hm, hid]⟩
  | _ => simp [askedBack?] at h

theorem hearing_cases (message : Json) (outcome : Except Failure Unit) :
    (askedBack? message = none ∧ hearing message outcome = [.heard message]) ∨
    ∃ id, askedBack? message = some id ∧
      ((outcome = .ok () ∧ hearing message outcome = [.heard message, .answered id]) ∨
        ∃ e, outcome = .error e ∧ hearing message outcome = [.heard message, .unanswered id e]) := by
  unfold hearing
  split
  next hback => exact .inl ⟨hback, rfl⟩
  next id hback => exact .inr ⟨id, hback, .inl ⟨rfl, rfl⟩⟩
  next id e hback => exact .inr ⟨id, hback, .inr ⟨e, rfl, rfl⟩⟩

theorem Move.sent (h : Move b c incidents d) :
    d.sent = c.sent ++ incidents.filterMap Incident.written? := by
  cases h with
  | acts | records | launches | closes | discards | awaitsEnd | seesEnd | drops | reorders =>
      exact (List.append_nil _).symm
  | @asks d t _ method params h hq hfree =>
      obtain ⟨rfl, -, -, ht⟩ := send_ok h
      have hsent : d.sent = c.sent ++ [request c.nextId method params] := congrArg Table.sent ht
      have hwritten : (Incident.asked t params).written? = some (request c.nextId method params) := by
        simp [Incident.written?, hq]
      simpa [wait, List.filterMap_cons, hwritten] using hsent
  | asksInVain h =>
      obtain ⟨-, n, -, ht⟩ := send_error h
      exact (congrArg Table.sent ht).trans (List.append_nil _).symm
  | tells h => exact congrArg Table.sent (table_write h).2
  | @hears _ _ _ message _ outcome hp hr hn hnull h =>
      obtain ⟨-, ⟨id, hback, rfl, ht⟩ | ⟨n, -, hreply, rfl, ht⟩ | ⟨-, hnone, ht⟩⟩ := dispatch_cases h
      · have hheard : hearing message (.ok ()) = [.heard message, .answered id] := by
          simp [hearing, hback]
        exact hheard ▸ congrArg Table.sent ht
      · have hheard : hearing message (.ok ()) = [.heard message] := by
          simp [hearing, askedBack?_of_isReplyTo hreply]
        exact hheard ▸ (congrArg Table.sent ht).trans (List.append_nil _).symm
      · have hsilent : (hearing message outcome).filterMap Incident.written? = [] := by
          obtain ⟨-, heq⟩ | ⟨id, hback, ⟨rfl, -⟩ | ⟨e, -, heq⟩⟩ := hearing_cases message outcome
          · exact heq ▸ rfl
          · simp [hback] at hnone
          · exact heq ▸ rfl
        rw [hsilent, List.append_nil]
        exact congrArg Table.sent ht
  | @dies d _ _ message _ e hp hr hn hnull h he =>
      have hsilent :
          (hearing message (.error e) ++ [Incident.cut]).filterMap Incident.written? = [] := by
        obtain ⟨-, heq⟩ | ⟨id, -, ⟨hok, -⟩ | ⟨e', -, heq⟩⟩ := hearing_cases message (.error e)
        · exact heq ▸ rfl
        · cases hok
        · exact heq ▸ rfl
      rw [hsilent, List.append_nil]
      exact congrArg Table.sent (dispatch_error h).2
  | stops ticket process ending =>
      refine Eq.trans ?_ (List.append_nil _).symm
      obtain ⟨e, -, heq⟩ | ⟨i, -, -, heq⟩ | ⟨-, heq⟩ := finishStop_cases ticket process ending c
      all_goals exact heq ▸ rfl
  | completes | breaks =>
      unfold handOver
      split <;> exact (List.append_nil _).symm

theorem hearing_answers (message : Json) (outcome : Except Failure Unit) :
    (hearing message outcome).filterMap Incident.servedId? =
      (hearing message outcome).filterMap Incident.heardId? := by
  obtain ⟨hback, heq⟩ | ⟨id, hback, ⟨-, heq⟩ | ⟨e, -, heq⟩⟩ := hearing_cases message outcome
  all_goals
    rw [heq]
    simp [List.filterMap_cons, Incident.heardId?, Incident.servedId?, hback]

theorem hearing_unanswered {message id : Json} {outcome : Except Failure Unit} {e : Failure}
    (h : dispatch b message c = (outcome, d)) (hu : .unanswered id e ∈ hearing message outcome) :
    Unwritable b (emptyAnswer id) e := by
  obtain ⟨-, heq⟩ | ⟨id', hback, ⟨-, heq⟩ | ⟨e', rfl, heq⟩⟩ := hearing_cases message outcome
  all_goals rw [heq] at hu
  · simp at hu
  · simp at hu
  · obtain ⟨rfl, rfl⟩ : id = id' ∧ e = e' := by simpa using hu
    obtain ⟨text, hanswer⟩ := dispatch_askedBack hback c
    exact write_failure (hanswer.symm.trans h)

theorem Move.answers (h : Move b c incidents d) :
    incidents.filterMap Incident.servedId? = incidents.filterMap Incident.heardId? := by
  cases h with
  | hears => exact hearing_answers ..
  | dies =>
      rw [List.filterMap_append, List.filterMap_append, hearing_answers]
      rfl
  | acts | records | launches | asks | asksInVain | tells | closes | stops | completes | discards
  | awaitsEnd | seesEnd | drops | reorders | breaks => rfl

theorem Move.unanswered (h : Move b c incidents d) {id : Json} {e : Failure}
    (hu : .unanswered id e ∈ incidents) : Unwritable b (emptyAnswer id) e := by
  cases h with
  | hears hp hr hn hnull h => exact hearing_unanswered h hu
  | dies hp hr hn hnull h he => exact hearing_unanswered h (by simpa using hu)
  | acts | records | launches | asks | asksInVain | tells | closes | stops | completes | discards
  | awaitsEnd | seesEnd | drops | reorders | breaks => simp at hu

theorem Moves.sent (h : Moves b c account d) :
    d.sent = c.sent ++ account.filterMap Incident.written? := by
  induction h with
  | refl => exact (List.append_nil _).symm
  | tail _ last ih => rw [last.sent, ih, List.append_assoc, List.filterMap_append]

theorem Moves.answers (h : Moves b c account d) :
    account.filterMap Incident.servedId? = account.filterMap Incident.heardId? := by
  induction h with
  | refl => rfl
  | tail _ last ih => rw [List.filterMap_append, List.filterMap_append, ih, last.answers]

theorem Moves.unanswered (h : Moves b c account d) {id : Json} {e : Failure}
    (hu : .unanswered id e ∈ account) : Unwritable b (emptyAnswer id) e := by
  induction h with
  | refl => simp at hu
  | tail _ last ih =>
      obtain hu | hu := List.mem_append.mp hu
      · exact ih hu
      · exact last.unanswered hu

theorem Move.reported (h : Move b c incidents d) {t : Task} {outcome : Except Failure Json}
    (hc : .completed t outcome ∈ incidents) {id : Nat} {method : String}
    (ht : t.stage = .calling id method) : (t.ticket, outcome) ∈ d.finished := by
  cases h with
  | completes hr hmem hq =>
      obtain ⟨rfl, rfl⟩ : t = _ ∧ outcome = _ := by simpa using hc
      simp [handOver, ht, report]
  | hears hp hr hn hnull h =>
      have htask := hearing_task _ hc
      simp [Incident.task?] at htask
  | @dies _ _ _ message _ e =>
      have hmem : .completed t outcome ∈ hearing message (.error e) := by simpa using hc
      have htask := hearing_task _ hmem
      simp [Incident.task?] at htask
  | acts | records | launches | asks | asksInVain | tells | closes | stops | discards | awaitsEnd
  | seesEnd | drops | reorders | breaks => simp at hc

theorem Moves.reported (h : Moves b c account d) {t : Task} {outcome : Except Failure Json}
    (hc : .completed t outcome ∈ account) {id : Nat} {method : String}
    (ht : t.stage = .calling id method) : (t.ticket, outcome) ∈ d.finished := by
  induction h with
  | refl => simp at hc
  | tail _ last ih =>
      obtain hc | hc := List.mem_append.mp hc
      · obtain ⟨reports, heq⟩ := last.finished
        exact heq ▸ List.mem_append_left _ (ih hc)
      · exact last.reported hc ht

theorem Move.timed (h : Move b c incidents d) {t : Task} (hd : .dropped t ∈ incidents) :
    t.stage.isTimed = true := by
  cases h with
  | drops hmem hq htimed =>
      obtain rfl : t = _ := by simpa using hd
      exact htimed
  | hears hp hr hn hnull h =>
      have htask := hearing_task _ hd
      simp [Incident.task?] at htask
  | @dies _ _ _ message _ e =>
      have hmem : .dropped t ∈ hearing message (.error e) := by simpa using hd
      have htask := hearing_task _ hmem
      simp [Incident.task?] at htask
  | acts | records | launches | asks | asksInVain | tells | closes | stops | completes | discards
  | awaitsEnd | seesEnd | reorders | breaks => simp at hd

theorem Moves.timed (h : Moves b c account d) {t : Task} (hd : .dropped t ∈ account) :
    t.stage.isTimed = true := by
  induction h with
  | refl => simp at hd
  | tail _ last ih => exact (List.mem_append.mp hd).elim ih last.timed

theorem Move.brokenOff (h : Move b c incidents d) {t : Task} {reason : String}
    (hb : .broken t reason ∈ incidents) {id : Nat} {method : String}
    (ht : t.stage = .calling id method) :
    (t.ticket, .error (.unavailable (.pipeClosed reason))) ∈ d.finished := by
  cases h with
  | breaks reason' hmem hq =>
      obtain ⟨rfl, rfl⟩ : t = _ ∧ reason = _ := by simpa using hb
      simp [handOver, ht, report]
  | hears hp hr hn hnull h =>
      have htask := hearing_task _ hb
      simp [Incident.task?] at htask
  | @dies _ _ _ message _ e =>
      have hmem : .broken t reason ∈ hearing message (.error e) := by simpa using hb
      have htask := hearing_task _ hmem
      simp [Incident.task?] at htask
  | acts | records | launches | asks | asksInVain | tells | closes | stops | completes | discards
  | awaitsEnd | seesEnd | drops | reorders => simp at hb

theorem Moves.brokenOff (h : Moves b c account d) {t : Task} {reason : String}
    (hb : .broken t reason ∈ account) {id : Nat} {method : String}
    (ht : t.stage = .calling id method) :
    (t.ticket, .error (.unavailable (.pipeClosed reason))) ∈ d.finished := by
  induction h with
  | refl => simp at hb
  | tail _ last ih =>
      obtain hb | hb := List.mem_append.mp hb
      · obtain ⟨reports, heq⟩ := last.finished
        exact heq ▸ List.mem_append_left _ (ih hb)
      · exact last.brokenOff hb ht

def CompletedWith (account : List Incident) (t : Task) (outcome : Except Failure Json) : Prop :=
  ∃ before after, account = before ++ .completed t outcome :: after ∧
    ∀ i ∈ before ++ after, ∀ id, t.id? = some id → i.completedId? ≠ some id

theorem Tracked.not_completed (h : Tracked account c) {id : Nat}
    (hopen : (phase id account).isOpen = true) : ∀ i ∈ account, i.completedId? ≠ some id := by
  intro i hi hc
  cases i with
  | completed t outcome =>
      obtain ⟨before, after, rfl⟩ := List.append_of_mem hi
      obtain ⟨reply, -, hphase⟩ := h.lawful.phase_completed rfl hc after
      simp [hphase, Phase.isOpen] at hopen
  | _ => simp [Incident.completedId?] at hc

theorem Tracked.completedWith (h : Tracked account c) {t : Task} {params : Json} {id : Nat}
    {method : String} {reply : Except Failure Json} (ht : .asked t params ∈ account)
    (hq : t.stage.question? = some (id, method)) (hphase : phase id account = .completed reply)
    (hmem : some id ∈ account.map Incident.completedId?) :
    CompletedWith account t (reply.bind (resultOf method)) := by
  have hid : t.id? = some id := Task.id?_eq_some.mpr ⟨method, hq⟩
  obtain ⟨i, hi, hc⟩ := List.mem_map.mp hmem
  cases i with
  | completed u outcome =>
      obtain ⟨before, after, heq⟩ := List.append_of_mem hi
      obtain ⟨params', id', method', reply', hu, huq, hanswered, rfl⟩ :=
        h.lawful before u outcome after heq
      have hu : .asked u params' ∈ account := heq ▸ List.mem_append_left _ hu
      -- the task that was completed is the one that asked
      obtain rfl := h.asker_unique hu ht hc hid
      obtain ⟨rfl, rfl⟩ : id' = id ∧ method' = method := by simpa [hq] using huq.symm
      obtain ⟨first, hfirst, hlast⟩ := h.lawful.phase_completed heq hid after
      obtain rfl : first = reply' := Phase.answered.inj (hfirst.symm.trans hanswered)
      obtain rfl : first = reply := Phase.completed.inj (hlast.symm.trans (heq ▸ hphase))
      refine ⟨before, after, heq, fun i hi n hn => ?_⟩
      exact h.lawful.once heq hn i hi
  | _ => simp [Incident.completedId?] at hc

theorem dispatch_rpc {message : Json} (h : IsRpc message) (hback : askedBack? message = none)
    (c : Connection) : (dispatch b message c).1 = .ok () := by
  obtain ⟨fields, rfl, hid, -⟩ := h
  cases hm : fields.lookup "method" with
  | some method =>
      cases hi : fields.lookup "id" with
      | some id => simp [askedBack?, hm, hi] at hback
      | none => simp [dispatch, hm, hi]
  | none =>
      have hproper : IsId ((fields.lookup "id").getD .null) := by
        cases hi : fields.lookup "id" with
        | none => trivial
        | some id => exact hid id hi
      have hdeliver : dispatch b (.object fields) c =
          deliver ((fields.lookup "id").getD .null) (.object fields) c := by simp [dispatch, hm]
      rw [hdeliver]
      cases hd : deliver ((fields.lookup "id").getD .null) (.object fields) c with
      | mk outcome after =>
          cases outcome with
          | ok _ => rfl
          | error e =>
              have hcompound := deliver_error hd
              generalize (fields.lookup "id").getD .null = id at hproper hcompound
              cases id <;> simp [IsId, isCompound] at hproper hcompound

/-- How the requests of a connection stand, by an account of all its moves. -/
structure Served (b : Behaviour) (account : List Incident) (c : Connection) : Prop where
  numbers : (account.filterMap Incident.askedId?).Nodup
  waiting : ∀ {before t params after id method}, account = before ++ .asked t params :: after →
    t.stage.question? = some (id, method) → (∀ i ∈ after, i.droppedId? ≠ some id) →
    replyIn? id after = none → id ∈ c.pending ∧ ∀ i ∈ account, i.completedId? ≠ some id
  completion : ∀ {before t params after id method reply},
    account = before ++ .asked t params :: after → t.stage.question? = some (id, method) →
    (∀ i ∈ after, i.droppedId? ≠ some id) → replyIn? id after = some reply →
    id ∉ c.pending ∧
      (CompletedWith account t (reply.bind (resultOf method)) ∨
        (id, reply) ∈ c.replies ∧ ∀ i ∈ account, i.completedId? ≠ some id)
  verdicts : ∀ method message, IsRpc message → resultOf method message = verdict method message
  reported : ∀ {t outcome id method}, .completed t outcome ∈ account →
    t.stage = .calling id method → (t.ticket, outcome) ∈ c.finished
  /-- only the deadline of a stop and a broken pipe end the waiting in another way -/
  deadlines : ∀ {t}, .dropped t ∈ account → t.stage.isTimed = true
  breaks : ∀ {t reason id method}, .broken t reason ∈ account → t.stage = .calling id method →
    (t.ticket, .error (.unavailable (.pipeClosed reason))) ∈ c.finished
  others : ∀ {message outcome d}, dispatch b message c = (outcome, d) → IsRpc message →
    (∀ id ∈ c.pending, isReplyTo id message = false) →
    d.table = { c.table with sent := d.sent } ∧
      (askedBack? message = none → outcome = .ok () ∧ d.sent = c.sent)
  sent : c.sent = account.filterMap Incident.written?
  /-- requests of the server are answered in their order, once each -/
  answers : account.filterMap Incident.servedId? = account.filterMap Incident.heardId?
  unanswered : ∀ {id e}, .unanswered id e ∈ account → Unwritable b (emptyAnswer id) e

theorem Tracked.phase_cases (h : Tracked account c) {before after : List Incident} {t : Task}
    {params : Json} {id : Nat} (heq : account = before ++ .asked t params :: after)
    (hid : t.id? = some id) (hdrop : ∀ i ∈ after, i.droppedId? ≠ some id) :
    (phase id account = .waiting ∧ replyIn? id after = none) ∨
    ∃ reply, replyIn? id after = some reply ∧ (phase id account = .answered reply ∨
      phase id account = .completed reply ∧ some id ∈ account.map Incident.completedId?) := by
  have hphase : phase id account = Phase.waiting.afterAll id after :=
    heq ▸ phase_asked hid (h.asked_new heq hid)
  rw [hphase]
  obtain hw | ⟨reply, hreply, ha | ⟨hc, hmem⟩⟩ | ⟨-, hd⟩ := afterAll_waiting id after
  · exact .inl hw
  · exact .inr ⟨reply, hreply, .inl ha⟩
  · refine .inr ⟨reply, hreply, .inr ⟨hc, ?_⟩⟩
    simp only [heq, List.map_append, List.map_cons, List.mem_append, List.mem_cons]
    exact .inr (.inr hmem)
  · obtain ⟨i, hi, hdropped⟩ := List.mem_map.mp hd
    exact absurd hdropped (hdrop i hi)

theorem Tracked.served (h : Tracked account c) {c₀ : Connection} (hm : Moves b c₀ account c)
    (hsent : c₀.sent = []) : Served b account c where
  numbers := h.ordered.imp Nat.ne_of_lt
  waiting heq hq hdrop hnone := by
    obtain ⟨hphase, -⟩ | ⟨reply, hreply, -⟩ := h.phase_cases heq (Task.id?_eq_some.mpr ⟨_, hq⟩) hdrop
    · exact ⟨(h.waiting _).mpr hphase, h.not_completed (by rw [hphase]; rfl)⟩
    · simp [hnone] at hreply
  completion {_ _ _ _ id _ reply} heq hq hdrop hsome := by
    have hnot (hphase : phase id account ≠ .waiting) : id ∉ c.pending := mt (h.waiting id).mp hphase
    obtain ⟨-, hnone⟩ | ⟨reply', hreply, ha | ⟨hc, hmem⟩⟩ :=
      h.phase_cases heq (Task.id?_eq_some.mpr ⟨_, hq⟩) hdrop
    · simp [hnone] at hsome
    · obtain rfl : reply' = reply := Option.some.inj (hreply.symm.trans hsome)
      refine ⟨hnot (by simp [ha]), .inr ⟨(h.answered _ _).mpr ha, h.not_completed ?_⟩⟩
      rw [ha]
      rfl
    · obtain rfl : reply' = reply := Option.some.inj (hreply.symm.trans hsome)
      have hasked := heq ▸ List.mem_append_right _ List.mem_cons_self
      exact ⟨hnot (by simp [hc]), .inl (h.completedWith hasked hq hc hmem)⟩
  verdicts := resultOf_rpc
  reported hc ht := hm.reported hc ht
  deadlines := hm.timed
  breaks hb ht := hm.brokenOff hb ht
  others {message outcome d} hd hrpc hnone := by
    have hok (hback : askedBack? message = none) : outcome = .ok () :=
      (congrArg Prod.fst hd).symm.trans (dispatch_rpc hrpc hback c)
    obtain ⟨-, ⟨id, hback, -, ht⟩ | ⟨n, hn, hreply, -, -⟩ | ⟨-, -, ht⟩⟩ := dispatch_cases hd
    · have hsent : d.sent = c.sent ++ [emptyAnswer id] := congrArg Table.sent ht
      exact ⟨hsent ▸ ht, fun hnot => by simp [hback] at hnot⟩
    · simp [hnone n hn] at hreply
    · have hsent : d.sent = c.sent := congrArg Table.sent ht
      exact ⟨hsent ▸ ht, fun hback => ⟨hok hback, hsent⟩⟩
  sent := by rw [hm.sent, hsent, List.nil_append]
  answers := hm.answers
  unanswered := hm.unanswered

theorem admissible_fresh {command : List String} {root : Path} {timeout : Seconds} {ownId : Nat}
    {c₀ : Connection} (h : fresh command root timeout ownId = .ok c₀) {events : List Event}
    (hd : (events.filterMap Event.ticket?).Nodup) : Admissible c₀ events := by
  obtain rfl := fresh_ok h
  exact ⟨hd, fun _ _ => rfl⟩

/-- Whatever is called and whatever the server does: every call for a reply
is heeded, and in every state on the way the requests are served. -/
theorem requests_are_served {command : List String} {root : Path} {timeout : Seconds} {ownId : Nat}
    {c₀ : Connection} (b : Behaviour) (h : fresh command root timeout ownId = .ok c₀) :
    (∀ events : List Event, (events.filterMap Event.ticket?).Nodup →
      ∃ account, Moves b c₀ account (run b c₀ events) ∧ Drained (run b c₀ events) ∧
        (run b c₀ events).replies = [] ∧ ∀ e ∈ events, Heeded account (run b c₀ events) e) ∧
    ∀ account c, Moves b c₀ account c → Served b account c := by
  refine ⟨fun events hd => ?_, fun account c hm => ?_⟩
  · obtain ⟨account, hm, hheeded⟩ := moves_run (b := b) (admissible_fresh h hd)
    have hrest : Settled b (run b c₀ events) := settled_run (settled_fresh h)
    exact ⟨account, hm, hrest.drained, (advance?_eq_none.mp hrest.stuck).1, hheeded⟩
  · exact (hm.tracked (.start h)).served hm (fresh_ok h ▸ rfl)

def silent : Behaviour := ⟨fun _ _ => .ok (), fun _ _ _ => .take [], 2⟩

def sampleStart : Connection :=
  { command := ["server"], root := ⟨.root, []⟩, timeout := .whole 5, ownId := 1 }

def emits (message : Json) : Act := .emit (encode message)

def Ending.shown : Ending → String
  | .ok value => value.display
  | .error e => e.message

/-- The replies to two requests come after a request of the server, in the
other order, one of them twice. -/
def crossing : List Event :=
  [.start 0 (.int 7), .output [emits (answer (.int 1) (.object []))], .request 1 "a" .null,
    .request 2 "b" .null,
    .output [emits (.object [("id", .int 9), ("method", .text "q")]),
      emits (answer (.int 3) (.int 30)), emits (answer (.int 3) (.int 31)),
      emits (answer (.int 2) (.int 20))]]

theorem requests_are_served_crossing :
    fresh ["server"] ⟨.root, []⟩ (.whole 5) 1 = .ok sampleStart ∧
    (crossing.filterMap Event.ticket?).Nodup ∧
    (∃ account, Moves silent sampleStart account (run silent sampleStart crossing) ∧
      Served silent account (run silent sampleStart crossing)) ∧
    ((run silent sampleStart crossing).finished.map fun r => (r.1, Ending.shown r.2)) =
      [(0, "7"), (2, "30"), (1, "20")] ∧
    (run silent sampleStart crossing).sent.length = 5 := by
  have hstart : fresh ["server"] ⟨.root, []⟩ (.whole 5) 1 = .ok sampleStart := rfl
  have hdistinct : (crossing.filterMap Event.ticket?).Nodup := by decide
  obtain ⟨hruns, hserved⟩ := requests_are_served silent hstart
  obtain ⟨account, hm, -⟩ := hruns crossing hdistinct
  exact ⟨hstart, hdistinct, ⟨account, hm, hserved account _ hm⟩, by decide +kernel⟩

/-- A request of the server whose id is half a surrogate pair. -/
def unpairedQuery : Json := .object [("id", .unpaired [0xD800]), ("method", .text "x")]

def unpairedBytes : List UInt8 :=
  Text.Utf8.encode (headerText 28 ++ "\x7b\"id\":\"\\ud800\",\"method\":\"x\"\x7d".toList)

def unpaired : List Event := [.start 0 .null, .output [.emit unpairedBytes]]

def readsUnpairedQuery : Reading → Bool
  | .message (.object [(first, .unpaired [point]), (second, .text name)]) [] =>
    first == "id" && point == 0xD800 && second == "method" && name == "x"
  | _ => false

theorem next_unpairedBytes : next false unpairedBytes = .message unpairedQuery [] := by
  have htest : readsUnpairedQuery (next false unpairedBytes) = true := by decide +kernel
  unfold readsUnpairedQuery at htest
  split at htest
  next hnext =>
    simp only [Bool.and_eq_true, beq_iff_eq] at htest
    obtain ⟨⟨⟨rfl, rfl⟩, rfl⟩, rfl⟩ := htest
    exact hnext
  next => exact absurd htest Bool.false_ne_true

theorem isRpc_unpairedQuery : IsRpc unpairedQuery := by
  refine ⟨_, rfl, fun id hid => ?_, fun error he => ?_⟩
  · obtain rfl : .unpaired [0xD800] = id := by simpa [List.lookup] using hid
    trivial
  · simp [List.lookup] at he

/-- Such a request is not answered, though the server takes every message:
the reading ends, and the request that waits fails. -/
theorem unpaired_query_unanswered :
    next false unpairedBytes = .message unpairedQuery [] ∧ IsRpc unpairedQuery ∧
    askedBack? unpairedQuery = some (.unpaired [0xD800]) ∧
    (∀ i received message reason, silent.react i received message ≠ .refuse reason) ∧
    (run silent sampleStart unpaired).sent.all (fun m => (m.get? "method").isSome) = true ∧
    (run silent sampleStart unpaired).isReading = false ∧
    ((run silent sampleStart unpaired).finished.map fun r => (r.1, Ending.shown r.2)) =
      [(0, "Language server exited")] :=
  ⟨next_unpairedBytes, isRpc_unpairedQuery, rfl, fun _ _ _ _ => Reaction.noConfusion,
    by decide +kernel⟩

end CodeAtlas.Wire.Connection
