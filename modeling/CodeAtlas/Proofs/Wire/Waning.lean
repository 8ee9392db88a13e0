import CodeAtlas.Wire.Connection

namespace CodeAtlas.Wire

structure Peer.Later (p q : Peer) : Prop where
  reader : p.isReading = false → q.reader = p.reader
  alive : p.isAlive = false → q.isAlive = false

namespace Peer

variable {p q r : Peer}

theorem Later.refl (p : Peer) : p.Later p := ⟨fun _ => rfl, id⟩

theorem Later.trans (h : p.Later q) (h' : q.Later r) : p.Later r where
  reader hp := by
    have hq := h.reader hp
    rw [← hq]
    exact h'.reader (by rw [isReading, hq]; exact hp)
  alive hp := h'.alive (h.alive hp)

theorem Later.notReading (h : p.Later q) (hp : p.isReading = false) : q.isReading = false := by
  rw [isReading, h.reader hp]
  exact hp

theorem later_of_reader (hr : q.reader = p.reader) (ha : p.isAlive = false → q.isAlive = false) :
    p.Later q := ⟨fun _ => hr, ha⟩

theorem perform_reader (p : Peer) (act : Act) : (p.perform act).reader = p.reader := by
  cases act with
  | emit bytes => simp only [perform]; split <;> rfl
  | close | leave => rfl

theorem perform_isAlive {act : Act} (h : p.isAlive = false) : (p.perform act).isAlive = false := by
  cases act with
  | emit bytes => simp only [perform]; split <;> exact h
  | close => exact h
  | leave code => rfl

theorem performAll_reader (p : Peer) (acts : List Act) : (p.performAll acts).reader = p.reader := by
  induction acts generalizing p with
  | nil => rfl
  | cons act rest ih => exact (ih (p.perform act)).trans (perform_reader p act)

theorem performAll_isAlive {acts : List Act} (h : p.isAlive = false) :
    (p.performAll acts).isAlive = false := by
  induction acts generalizing p with
  | nil => exact h
  | cons act rest ih => exact ih (perform_isAlive h)

theorem later_performAll (p : Peer) (acts : List Act) : p.Later (p.performAll acts) :=
  later_of_reader (performAll_reader p acts) performAll_isAlive

theorem kill_reader (p : Peer) : p.kill.reader = p.reader := by
  unfold kill
  split <;> rfl

@[simp] theorem kill_isAlive (p : Peer) : p.kill.isAlive = false := by
  unfold kill
  split
  next => rfl
  next h => simpa using h

theorem later_kill (p : Peer) : p.Later p.kill :=
  later_of_reader (kill_reader p) fun _ => kill_isAlive p

end Peer

namespace Connection

theorem fresh_ok {command : List String} {root : Path} {timeout : Seconds} {ownId : Nat}
    {c : Connection} (h : fresh command root timeout ownId = .ok c) :
    c = { command, root, timeout, ownId } := by
  unfold fresh at h
  split at h
  next => simp at h
  next => exact (Except.ok.inj h).symm

/-- A connection some time after, when nothing was launched meanwhile. -/
structure Wanes (c d : Connection) : Prop where
  current : d.current = c.current ∨ d.current = none
  count : d.processes.length = c.processes.length
  peer : ∀ {i : Nat} {p : Peer}, c.processes[i]? = some p →
    ∃ q, d.processes[i]? = some q ∧ p.Later q

variable {c d e : Connection}

theorem Wanes.refl (c : Connection) : Wanes c c := ⟨.inl rfl, rfl, fun h => ⟨_, h, .refl _⟩⟩

theorem Wanes.trans (h : Wanes c d) (h' : Wanes d e) : Wanes c e where
  current := by
    obtain he | he := h'.current
    · exact he ▸ h.current
    · exact .inr he
  count := h'.count.trans h.count
  peer hp := by
    obtain ⟨q, hq, hpq⟩ := h.peer hp
    obtain ⟨r, hr, hqr⟩ := h'.peer hq
    exact ⟨r, hr, hpq.trans hqr⟩

theorem Wanes.of_eq (hc : d.current = c.current) (hp : d.processes = c.processes) : Wanes c d :=
  ⟨.inl hc, congrArg _ hp, fun h => ⟨_, hp ▸ h, .refl _⟩⟩

theorem Wanes.letGo (hc : d.current = none) (hp : d.processes = c.processes) : Wanes c d :=
  ⟨.inr hc, congrArg _ hp, fun h => ⟨_, hp ▸ h, .refl _⟩⟩

theorem wanes_setPeer {i : Nat} {f : Peer → Peer}
    (h : ∀ {p : Peer}, c.processes[i]? = some p → p.Later (f p)) : Wanes c (c.setPeer i f) where
  current := .inl rfl
  count := List.length_modify ..
  peer {j p} hp := by
    by_cases hij : i = j
    · subst hij
      exact ⟨f p, by simp [setPeer, hp], h hp⟩
    · exact ⟨p, by simp [setPeer, hij, hp], .refl p⟩

def Dead (i : Nat) (c : Connection) : Prop :=
  ∀ p, c.processes[i]? = some p → p.isAlive = false

theorem Wanes.before (h : Wanes c d) {i : Nat} {q : Peer} (hq : d.processes[i]? = some q) :
    ∃ p, c.processes[i]? = some p ∧ p.Later q := by
  have hlt : i < c.processes.length := h.count ▸ (List.getElem?_eq_some_iff.mp hq).1
  obtain ⟨q', hq', hl⟩ := h.peer (List.getElem?_eq_getElem hlt)
  obtain rfl : q' = q := Option.some.inj (hq'.symm.trans hq)
  exact ⟨_, List.getElem?_eq_getElem hlt, hl⟩

theorem Wanes.dead (h : Wanes c d) {i : Nat} (hc : Dead i c) : Dead i d := by
  intro q hq
  obtain ⟨p, hp, hl⟩ := h.before hq
  exact hl.alive (hc p hp)

theorem isReading_iff :
    c.isReading = true ↔
      ∃ i p, c.current = some i ∧ c.processes[i]? = some p ∧ p.isReading = true := by
  cases hi : c.current <;> simp [isReading, currentPeer?, hi, Option.any_eq_true]

theorem Wanes.isReading (h : Wanes c d) (hd : d.isReading = true) : c.isReading = true := by
  obtain ⟨i, q, hi, hq, hr⟩ := isReading_iff.mp hd
  obtain hc | hc := h.current
  · obtain ⟨p, hp, hl⟩ := h.before hq
    refine isReading_iff.mpr ⟨i, p, hc ▸ hi, hp, ?_⟩
    exact Bool.not_eq_false _ ▸ fun hn => by simp [hl.notReading hn] at hr
  · simp [hc] at hi

theorem Wanes.notReading (h : Wanes c d) (hc : c.isReading = false) : d.isReading = false :=
  Bool.eq_false_iff.mpr fun hd => by simp [h.isReading hd] at hc

theorem wanes_endReading {i : Nat} (h : ∀ {p : Peer}, c.processes[i]? = some p → p.isReading = true)
    (reader : Reader) : Wanes c (c.endReading i reader) := by
  have hset : Wanes c (c.setPeer i fun p => { p with reader := reader }) :=
    wanes_setPeer fun hp => ⟨fun hr => by simp [h hp] at hr, id⟩
  exact hset.trans (.of_eq rfl rfl)

/-- Where the reading of the process at hand stands. -/
def reader? (c : Connection) : Option Reader := c.currentPeer?.map Peer.reader

theorem reader?_eq_some {reader : Reader} :
    c.reader? = some reader ↔
      ∃ i p, c.current = some i ∧ c.processes[i]? = some p ∧ p.reader = reader := by
  cases hi : c.current <;> simp [reader?, currentPeer?, hi]

theorem notReading_iff : c.isReading = false ↔ c.reader? ≠ some .reading := by
  cases hp : c.currentPeer? with
  | none => simp [isReading, reader?, hp]
  | some p => cases hr : p.reader <;> simp [isReading, reader?, hp, Peer.isReading, hr]

theorem Wanes.died {e : Failure} (h : Wanes c d) (hc : c.reader? = some (.died e)) :
    d.current = none ∨ d.current = c.current ∧ d.reader? = some (.died e) := by
  obtain ⟨i, p, hi, hp, hr⟩ := reader?_eq_some.mp hc
  obtain hd | hd := h.current
  · obtain ⟨q, hq, hl⟩ := h.peer hp
    have hreader : q.reader = .died e := (hl.reader (by simp [Peer.isReading, hr])).trans hr
    exact .inr ⟨hd, reader?_eq_some.mpr ⟨i, q, hd.trans hi, hq, hreader⟩⟩
  · exact .inl hd

theorem isRunning_of_notReading (h : c.isReading = false) : c.isRunning = false := by
  rw [isRunning, Bool.and_eq_false_iff]
  right
  cases hp : c.currentPeer? with
  | none => rfl
  | some p => simpa [isReading, hp] using fun _ => by simpa [isReading, hp] using h

/-- A connection some time after, when no reading has ended meanwhile. -/
structure Steady (c d : Connection) : Prop extends Wanes c d where
  held : d.current = c.current
  readers : ∀ i : Nat, (d.processes[i]?).map Peer.reader = (c.processes[i]?).map Peer.reader

theorem Steady.of_eq (hc : d.current = c.current) (hp : d.processes = c.processes) : Steady c d :=
  ⟨.of_eq hc hp, hc, fun _ => by rw [hp]⟩

theorem Steady.trans (h : Steady c d) (h' : Steady d e) : Steady c e :=
  ⟨h.toWanes.trans h'.toWanes, h'.held.trans h.held, fun i => (h'.readers i).trans (h.readers i)⟩

theorem Steady.reader? (h : Steady c d) : d.reader? = c.reader? := by
  rw [Connection.reader?, Connection.reader?, currentPeer?, currentPeer?, h.held]
  cases c.current with
  | none => rfl
  | some i => exact h.readers i

theorem Steady.notReading (h : Steady c d) (hd : d.isReading = false) : c.isReading = false := by
  rw [notReading_iff, ← h.reader?]
  exact notReading_iff.mp hd

theorem steady_setPeer {i : Nat} {f : Peer → Peer}
    (h : ∀ {p : Peer}, c.processes[i]? = some p → p.Later (f p) ∧ (f p).reader = p.reader) :
    Steady c (c.setPeer i f) where
  toWanes := wanes_setPeer fun hp => (h hp).1
  held := rfl
  readers j := by
    by_cases hij : i = j
    · subst hij
      cases hp : c.processes[i]? with
      | none => simp [setPeer, hp]
      | some p => simp [setPeer, hp, (h hp).2]
    · simp [setPeer, hij]

theorem steady_acts (i : Nat) (acts : List Act) (c : Connection) :
    Steady c (c.setPeer i fun p => p.performAll acts) :=
  steady_setPeer fun _ => ⟨Peer.later_performAll _ acts, Peer.performAll_reader _ acts⟩

theorem steady_taken (i : Nat) (rest : List UInt8) (c : Connection) :
    Steady c (c.setPeer i fun p => { p with output := rest }) :=
  steady_setPeer fun _ => ⟨Peer.later_of_reader rfl id, rfl⟩

end Connection

end CodeAtlas.Wire
