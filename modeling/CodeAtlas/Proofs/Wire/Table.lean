import CodeAtlas.Proofs.Wire.Waning

namespace CodeAtlas.Wire

/-- The request whose reply a task waits for. -/
def Stage.question? : Stage → Option (Nat × String)
  | .initializing id _ => some (id, "initialize")
  | .calling id method => some (id, method)
  | .shuttingDown id _ _ => some (id, "shutdown")
  | .leaving _ _ => none

theorem Stage.awaits_iff {s : Stage} {id : Nat} :
    s.awaits id = true ↔ ∃ method, s.question? = some (id, method) := by
  cases s <;> simp [awaits, question?]

theorem Stage.awaits_unique {s : Stage} {m n : Nat} (hm : s.awaits m = true) (hn : s.awaits n = true) :
    m = n := by
  obtain ⟨_, hm⟩ := awaits_iff.mp hm
  obtain ⟨_, hn⟩ := awaits_iff.mp hn
  exact congrArg Prod.fst (Option.some.inj (hm.symm.trans hn))

/-- A process takes a message, and reacts unless it is only answered. -/
def Peer.take (message : Json) (answers : Bool) (acts : List Act) (p : Peer) : Peer :=
  let taken := { p with received := p.received ++ [message] }
  if answers then taken else taken.performAll acts

theorem Peer.later_take (message : Json) (answers : Bool) (acts : List Act) (p : Peer) :
    p.Later (p.take message answers acts) ∧ (p.take message answers acts).reader = p.reader := by
  have htaken : p.Later { p with received := p.received ++ [message] } := later_of_reader rfl id
  unfold take
  split
  · exact ⟨htaken, rfl⟩
  · exact ⟨htaken.trans (later_performAll _ acts), performAll_reader _ acts⟩

namespace Connection

structure Table where
  pending : List Nat
  replies : List (Nat × Except Failure Json)
  nextId : Nat
  tasks : List Task
  finished : List (Nat × Ending)
  sent : List Json

namespace Table

def write (message : Json) (t : Table) : Table := { t with sent := t.sent ++ [message] }

/-- The request goes out with the next number. -/
def ask (method : String) (params : Json) (t : Table) : Table :=
  { t.write (request t.nextId method params) with
    nextId := t.nextId + 1
    pending := t.pending ++ [t.nextId] }

def reply (id : Nat) (message : Json) (t : Table) : Table :=
  { t with
    pending := t.pending.filter (· != id)
    replies := t.replies ++ [(id, .ok message)] }

def cut (t : Table) : Table :=
  { t with
    pending := []
    replies := t.replies ++ t.pending.map fun id => (id, .error (.unavailable .exited)) }

def report (ticket : Nat) (ending : Ending) (t : Table) : Table :=
  { t with finished := t.finished ++ [(ticket, ending)] }

end Table

def table (c : Connection) : Table := ⟨c.pending, c.replies, c.nextId, c.tasks, c.finished, c.sent⟩

/-- The id of a request that the server makes. -/
def askedBack? : Json → Option Json
  | .object fields => (fields.lookup "method").bind fun _ => fields.lookup "id"
  | _ => none

/-- A message without a method replies to the request with its id. -/
def isReplyTo (id : Nat) : Json → Bool
  | .object fields =>
    (fields.lookup "method").isNone && matchesId ((fields.lookup "id").getD .null) id
  | _ => false

variable {b : Behaviour} {c d : Connection}

theorem matchesId_unique {reply : Json} {m n : Nat} (hm : matchesId reply m = true)
    (hn : matchesId reply n = true) : m = n := by
  unfold matchesId at hm hn
  split at hm
  next =>
    simp only [beq_iff_eq] at hm hn
    omega
  next =>
    simp only [beq_iff_eq] at hm hn
    exact hm.trans hn.symm
  next =>
    simp only [beq_iff_eq] at hm hn
    exact Int.ofNat.inj (Option.some.inj (hm.symm.trans hn))
  next => simp at hm

theorem isReplyTo_unique {message : Json} {m n : Nat} (hm : isReplyTo m message = true)
    (hn : isReplyTo n message = true) : m = n := by
  cases message with
  | object fields =>
      simp only [isReplyTo, Bool.and_eq_true] at hm hn
      exact matchesId_unique hm.2 hn.2
  | _ => simp [isReplyTo] at hm

theorem askedBack?_of_isReplyTo {message : Json} {n : Nat} (h : isReplyTo n message = true) :
    askedBack? message = none := by
  cases message with
  | object fields =>
      simp only [isReplyTo, Bool.and_eq_true, Option.isNone_iff_eq_none] at h
      simp [askedBack?, h.1]
  | _ => rfl

theorem isReplyTo_of_askedBack {message id : Json} (h : askedBack? message = some id) (n : Nat) :
    isReplyTo n message = false :=
  Bool.eq_false_iff.mpr fun hn => by simp [askedBack?_of_isReplyTo hn] at h

variable {message : Json} {answers : Bool}

theorem setPeer_const {i : Nat} {p : Peer} (h : c.processes[i]? = some p) (f : Peer → Peer) :
    c.setPeer i (fun _ => f p) = c.setPeer i f := by
  have hpeers : c.processes.modify i (fun _ => f p) = c.processes.modify i f := by
    refine List.ext_getElem? fun j => ?_
    by_cases hij : i = j
    · subst hij
      simp [h]
    · simp [hij]
  simp only [setPeer, hpeers]

theorem write_ok (h : write b message c answers = (.ok (), d)) :
    ∃ i p acts, c.current = some i ∧ c.processes[i]? = some p ∧
      b.react i p.received message = .take acts ∧
      d = { c.setPeer i (Peer.take message answers acts) with sent := c.sent ++ [message] } := by
  unfold write at h
  split at h
  next i p hi hp =>
    have hp : c.processes[i]? = some p := by simpa [currentPeer?, hi] using hp
    split at h
    next => simp at h
    next =>
      split at h
      next => simp at h
      next acts hreact =>
        obtain ⟨-, rfl⟩ := Prod.mk.inj h
        have htaken := setPeer_const hp (Peer.take message answers acts)
        exact ⟨i, p, acts, hi, hp, hreact,
          congrArg (fun e : Connection => { e with sent := c.sent ++ [message] }) htaken⟩
  next => simp at h

theorem table_write (h : write b message c answers = (.ok (), d)) :
    Steady c d ∧ d.table = c.table.write message := by
  obtain ⟨i, p, acts, -, -, -, rfl⟩ := write_ok h
  have hset : Steady c (c.setPeer i (Peer.take message answers acts)) :=
    steady_setPeer fun _ => Peer.later_take message answers acts _
  exact ⟨hset.trans (.of_eq rfl rfl), rfl⟩

theorem write_error {e : Failure} (h : write b message c answers = (.error e, d)) : d = c := by
  unfold write at h
  split at h
  next =>
    split at h
    next => exact (Prod.mk.inj h).2.symm
    next =>
      split at h
      next => exact (Prod.mk.inj h).2.symm
      next => simp at h
  next => exact (Prod.mk.inj h).2.symm

theorem send_ok {method : String} {params : Json} {id : Nat}
    (h : send b method params c = (.ok id, d)) :
    id = c.nextId ∧ c.isReading = true ∧ Steady c d ∧ d.table = c.table.ask method params := by
  unfold send at h
  split at h
  next => simp at h
  next hr =>
    simp only at h
    split at h
    next written hw =>
      obtain ⟨rfl, rfl⟩ : c.nextId = id ∧ written = d := by simpa using h
      obtain ⟨hsteady, htable⟩ := table_write hw
      have hentered : Steady c (({ c with
          nextId := c.nextId + 1, pending := c.pending ++ [c.nextId] } : Connection).note .debug
            (sendNote method c.nextId)) := .of_eq rfl rfl
      exact ⟨rfl, by simpa using hr, hentered.trans hsteady, htable⟩
    next => simp at h

theorem send_error {method : String} {params : Json} {e : Failure}
    (h : send b method params c = (.error e, d)) :
    Steady c d ∧ ∃ n ≥ c.nextId, d.table = { c.table with nextId := n } := by
  unfold send at h
  split at h
  next =>
    obtain rfl : c = d := (Prod.mk.inj h).2
    exact ⟨.of_eq rfl rfl, c.nextId, Nat.le_refl _, rfl⟩
  next =>
    simp only at h
    split at h
    next => simp at h
    next hw =>
      obtain rfl := write_error hw
      obtain ⟨-, rfl⟩ := Prod.mk.inj h
      exact ⟨.of_eq rfl rfl, c.nextId + 1, Nat.le_succ _, rfl⟩

theorem deliver_cases {id message : Json} {outcome : Except Failure Unit}
    (h : deliver id message c = (outcome, d)) : Steady c d ∧
    ((∃ n ∈ c.pending, matchesId id n = true ∧ outcome = .ok () ∧
        d.table = c.table.reply n message) ∨
      (∀ n ∈ c.pending, matchesId id n = false) ∧ d.table = c.table) := by
  unfold deliver at h
  split at h
  next =>
    obtain ⟨-, rfl⟩ := Prod.mk.inj h
    exact ⟨.of_eq rfl rfl, .inr ⟨fun _ _ => rfl, rfl⟩⟩
  next =>
    obtain ⟨-, rfl⟩ := Prod.mk.inj h
    exact ⟨.of_eq rfl rfl, .inr ⟨fun _ _ => rfl, rfl⟩⟩
  next =>
    split at h
    next hn =>
      have hnone : ∀ n ∈ c.pending, matchesId id n = false := by
        simpa using List.find?_eq_none.mp hn
      obtain ⟨-, rfl⟩ := Prod.mk.inj h
      split
      · exact ⟨.of_eq rfl rfl, .inr ⟨hnone, rfl⟩⟩
      · exact ⟨.of_eq rfl rfl, .inr ⟨hnone, rfl⟩⟩
    next n hn =>
      obtain ⟨rfl, rfl⟩ := Prod.mk.inj h
      exact ⟨.of_eq rfl rfl, .inl ⟨n, List.mem_of_find?_eq_some hn, List.find?_some hn, rfl, rfl⟩⟩

def isCompound : Json → Bool
  | .list _ | .object _ => true
  | _ => false

theorem deliver_error {id message : Json} {e : Failure} (h : deliver id message c = (.error e, d)) :
    isCompound id = true := by
  unfold deliver at h
  split at h
  next => rfl
  next => rfl
  next => split at h <;> simp at h

/-- A message is a request of the server, which is answered unless the
write fails, or the reply to a request that waits for it, or it changes
nothing. -/
theorem dispatch_cases {message : Json} {outcome : Except Failure Unit}
    (h : dispatch b message c = (outcome, d)) :
    Steady c d ∧
    ((∃ id, askedBack? message = some id ∧ outcome = .ok () ∧
        d.table = c.table.write (emptyAnswer id)) ∨
      (∃ n ∈ c.pending, isReplyTo n message = true ∧ outcome = .ok () ∧
        d.table = c.table.reply n message) ∨
      (∀ n ∈ c.pending, isReplyTo n message = false) ∧
        (askedBack? message = none ∨ ∃ e, outcome = .error e) ∧ d.table = c.table) := by
  cases message with
  | object fields =>
      unfold dispatch at h
      cases hm : fields.lookup "method" with
      | none =>
          have hback : askedBack? (.object fields) = none := by simp [askedBack?, hm]
          have hreply (n : Nat) : isReplyTo n (.object fields) =
              matchesId ((fields.lookup "id").getD .null) n := by simp [isReplyTo, hm]
          simp only [hm] at h
          obtain ⟨hsteady, ⟨n, hn, hid, ho, ht⟩ | ⟨hnone, ht⟩⟩ := deliver_cases h
          · exact ⟨hsteady, .inr (.inl ⟨n, hn, (hreply n).trans hid, ho, ht⟩)⟩
          · exact ⟨hsteady, .inr (.inr ⟨fun n hn => (hreply n).trans (hnone n hn), .inl hback, ht⟩)⟩
      | some method =>
          have hreply (n : Nat) : isReplyTo n (.object fields) = false := by simp [isReplyTo, hm]
          cases hi : fields.lookup "id" with
          | none =>
              simp only [hm, hi, Prod.mk.injEq] at h
              obtain ⟨-, rfl⟩ := h
              have hback : askedBack? (.object fields) = none := by simp [askedBack?, hm, hi]
              exact ⟨.of_eq rfl rfl, .inr (.inr ⟨fun n _ => hreply n, .inl hback, rfl⟩)⟩
          | some id =>
              simp only [hm, hi] at h
              have hback : askedBack? (.object fields) = some id := by simp [askedBack?, hm, hi]
              obtain ⟨e⟩ | ⟨⟨⟩⟩ := outcome
              · obtain rfl := write_error h
                exact ⟨.of_eq rfl rfl, .inr (.inr ⟨fun n _ => hreply n, .inr ⟨e, rfl⟩, rfl⟩)⟩
              · obtain ⟨hsteady, htable⟩ := table_write h
                have hnoted : Steady c (c.note .debug (incomingNote method true)) := .of_eq rfl rfl
                exact ⟨hnoted.trans hsteady, .inl ⟨id, hback, rfl, htable⟩⟩
  | null | bool | int | real | text | unpaired | list =>
      obtain ⟨-, rfl⟩ := Prod.mk.inj h
      exact ⟨.of_eq rfl rfl, .inr (.inr ⟨fun _ _ => rfl, .inl rfl, rfl⟩)⟩

theorem dispatch_error {message : Json} {e : Failure} (h : dispatch b message c = (.error e, d)) :
    d.processes = c.processes ∧ d.table = c.table := by
  unfold dispatch at h
  split at h
  next fields =>
    split at h
    next =>
      obtain rfl := write_error h
      exact ⟨rfl, rfl⟩
    next => simp at h
    next =>
      unfold deliver at h
      split at h
      next => exact (Prod.mk.inj h).2 ▸ ⟨rfl, rfl⟩
      next => exact (Prod.mk.inj h).2 ▸ ⟨rfl, rfl⟩
      next => split at h <;> simp at h
  all_goals exact (Prod.mk.inj h).2 ▸ ⟨rfl, rfl⟩

theorem setPeer_self {i : Nat} {f : Peer → Peer} {p : Peer} (h : c.processes[i]? = some p) :
    (c.setPeer i f).processes[i]? = some (f p) := by
  simp [setPeer, h]

def Idle (c : Connection) : Prop := c.isReading = false → c.pending = []

theorem Idle.cut_of_notReading (h : Idle c) (hr : c.isReading = false) : c.table.cut = c.table := by
  simp [Table.cut, table, h hr]

def killed (process : Nat) (c : Connection) : Connection :=
  { c with initialized := false }.setPeer process Peer.kill

theorem wanes_killed (process : Nat) (c : Connection) : Wanes c (killed process c) := by
  have hset : Wanes { c with initialized := false } (killed process c) :=
    wanes_setPeer fun _ => Peer.later_kill _
  exact ⟨hset.current, hset.count, hset.peer⟩

theorem dead_killed (process : Nat) (c : Connection) : Dead process (killed process c) := by
  intro p hp
  simp only [killed, setPeer, List.getElem?_modify, if_true, Option.map_eq_map,
    Option.map_eq_some_iff] at hp
  obtain ⟨q, -, rfl⟩ := hp
  exact Peer.kill_isAlive q

theorem reader?_killed (process : Nat) (c : Connection) : (killed process c).reader? = c.reader? := by
  cases hi : c.current with
  | none => simp [killed, setPeer, reader?, currentPeer?, hi]
  | some i =>
      simp only [killed, setPeer, reader?, currentPeer?, hi, Option.bind_some, List.getElem?_modify]
      cases c.processes[i]? with
      | none => rfl
      | some p => simp [apply_ite Peer.reader, Peer.kill_reader]

/-- Whoever waits is told of the stop, and the process is let go. -/
def letGo (ticket : Nat) (ending : Ending) (c : Connection) : Connection :=
  { c.failPending (.unavailable .stopped) with current := none }.report ticket ending

theorem table_letGo (ticket : Nat) (ending : Ending) (h : d.table = c.table.cut) :
    (letGo ticket ending d).table = c.table.cut.report ticket ending := by
  have hpending : d.pending = [] := congrArg Table.pending h
  have htable : (letGo ticket ending d).table = d.table.report ticket ending := by
    simp [letGo, failPending, report, table, Table.report, hpending]
  rw [htable, h]

theorem finishStop_eq (ticket process : Nat) (ending : Ending) (c : Connection) :
    finishStop ticket process ending c =
      match (killed process c).current, (killed process c).currentPeer? with
      | some i, some p =>
        match p.reader with
        | .died e => (killed process c).report ticket (.error e)
        | .reading => letGo ticket ending ((killed process c).endReading i .finished)
        | .finished => letGo ticket ending (killed process c)
      | _, _ => letGo ticket ending (killed process c) := rfl

theorem finishStop_cases (ticket process : Nat) (ending : Ending) (c : Connection) :
    (∃ e, c.reader? = some (.died e) ∧
      finishStop ticket process ending c = (killed process c).report ticket (.error e)) ∨
    (∃ i, c.current = some i ∧ c.reader? = some .reading ∧
      finishStop ticket process ending c =
        letGo ticket ending ((killed process c).endReading i .finished)) ∨
    (c.reader? = none ∨ c.reader? = some .finished) ∧
      finishStop ticket process ending c = letGo ticket ending (killed process c) := by
  have hreader := reader?_killed process c
  cases hp : (killed process c).currentPeer? with
  | none =>
      have hnone : c.reader? = none := by simpa [reader?, hp] using hreader.symm
      refine .inr (.inr ⟨.inl hnone, ?_⟩)
      rw [finishStop_eq, hp]
      cases (killed process c).current <;> rfl
  | some p =>
      have hsome : c.reader? = some p.reader := by simpa [reader?, hp] using hreader.symm
      obtain ⟨i, p', hi, -, -⟩ := reader?_eq_some.mp hsome
      have hk : (killed process c).current = some i := hi
      rw [hsome, finishStop_eq, hp, hk]
      cases hr : p.reader with
      | died e => exact .inl ⟨e, rfl, by simp only [hr]⟩
      | reading => exact .inr (.inl ⟨i, hi, rfl, by simp only [hr]⟩)
      | finished => exact .inr (.inr ⟨.inr rfl, by simp only [hr]⟩)

theorem wanes_stopReading {i : Nat} (hi : c.current = some i) (hr : c.reader? = some .reading)
    (process : Nat) : Wanes (killed process c) ((killed process c).endReading i .finished) := by
  refine wanes_endReading (fun {q} hq => ?_) _
  obtain ⟨j, p, hj, hp, hpr⟩ := reader?_eq_some.mp ((reader?_killed process c).trans hr)
  obtain rfl : i = j := Option.some.inj (hi.symm.trans hj)
  obtain rfl : p = q := Option.some.inj (hp.symm.trans hq)
  simp [Peer.isReading, hpr]

theorem wanes_finishStop (ticket process : Nat) (ending : Ending) (c : Connection) :
    Wanes c (finishStop ticket process ending c) := by
  obtain ⟨e, -, heq⟩ | ⟨i, hi, hr, heq⟩ | ⟨-, heq⟩ := finishStop_cases ticket process ending c
  · exact heq ▸ (wanes_killed process c).trans (.of_eq rfl rfl)
  · have hw := (wanes_killed process c).trans (wanes_stopReading hi hr process)
    exact heq ▸ hw.trans (.letGo rfl rfl)
  · exact heq ▸ (wanes_killed process c).trans (.letGo rfl rfl)

theorem dead_finishStop (ticket process : Nat) (ending : Ending) (c : Connection) :
    Dead process (finishStop ticket process ending c) := by
  obtain ⟨e, -, heq⟩ | ⟨i, hi, hr, heq⟩ | ⟨-, heq⟩ := finishStop_cases ticket process ending c
  · exact heq ▸ dead_killed process c
  · exact heq ▸ (wanes_stopReading hi hr process).dead (dead_killed process c)
  · exact heq ▸ dead_killed process c

theorem finishStop_reports (ticket process : Nat) (ending : Ending) (c : Connection) :
    (finishStop ticket process ending c).tasks = c.tasks ∧
      ∃ last, (finishStop ticket process ending c).finished = c.finished ++ [(ticket, last)] := by
  obtain ⟨e, -, heq⟩ | ⟨i, -, -, heq⟩ | ⟨-, heq⟩ := finishStop_cases ticket process ending c
  · exact heq ▸ ⟨rfl, _, rfl⟩
  · exact heq ▸ ⟨rfl, _, rfl⟩
  · exact heq ▸ ⟨rfl, _, rfl⟩

/-- A stop ends in one of two ways: the failure of a reader that died is
reported and the process stays at hand, or nothing stays. -/
theorem finishStop_spec (h : Idle c) (ticket process : Nat) (ending : Ending) :
    (∃ e, c.reader? = some (.died e) ∧
        (finishStop ticket process ending c).current = c.current ∧
        (finishStop ticket process ending c).table = c.table.report ticket (.error e)) ∨
      (∀ e, c.reader? ≠ some (.died e)) ∧
        (finishStop ticket process ending c).current = none ∧
        (finishStop ticket process ending c).table = c.table.cut.report ticket ending := by
  obtain ⟨e, hr, heq⟩ | ⟨i, hi, hr, heq⟩ | ⟨hr, heq⟩ := finishStop_cases ticket process ending c
  · exact heq ▸ .inl ⟨e, hr, rfl, rfl⟩
  · exact heq ▸ .inr ⟨by simp [hr], rfl, table_letGo ticket ending rfl⟩
  · have hidle : c.isReading = false := notReading_iff.mpr (by obtain hr | hr := hr <;> simp [hr])
    have hcut : (killed process c).table = c.table.cut := (h.cut_of_notReading hidle).symm
    exact heq ▸ .inr ⟨by obtain hr | hr := hr <;> simp [hr], rfl, table_letGo ticket ending hcut⟩

end Connection

end CodeAtlas.Wire
