import CodeAtlas.Proofs.Wire.Stopping
import Mathlib.Data.List.Induction

namespace CodeAtlas.Wire

namespace Peer

theorem perform_received (p : Peer) (act : Act) : (p.perform act).received = p.received := by
  cases act with
  | emit bytes => simp only [perform]; split <;> rfl
  | close | leave => rfl

theorem performAll_received (p : Peer) (acts : List Act) :
    (p.performAll acts).received = p.received := by
  induction acts generalizing p with
  | nil => rfl
  | cons act rest ih => exact (ih (p.perform act)).trans (perform_received p act)

theorem take_received (message : Json) (answers : Bool) (acts : List Act) (p : Peer) :
    (p.take message answers acts).received = p.received ++ [message] := by
  unfold take
  split
  · rfl
  · exact performAll_received ..

theorem kill_received (p : Peer) : p.kill.received = p.received := by
  unfold kill
  split <;> rfl

end Peer

namespace Connection

variable {b : Behaviour} {c d e : Connection} {account later incidents life : List Incident}

def received (c : Connection) : List (List Json) := (c.processes.map Peer.received).reverse

theorem received_setPeer {f : Peer → Peer} (h : ∀ p, (f p).received = p.received) (i : Nat)
    (c : Connection) : (c.setPeer i f).received = c.received := by
  refine congrArg List.reverse (List.ext_getElem? fun j => ?_)
  simp only [setPeer, List.getElem?_map, List.getElem?_modify]
  cases c.processes[j]? with
  | none => rfl
  | some p => by_cases hij : i = j <;> simp [hij, h]

theorem received_endReading (i : Nat) (reader : Reader) (c : Connection) :
    (c.endReading i reader).received = c.received :=
  received_setPeer (f := fun p => { p with reader := reader }) (fun _ => rfl) i c

theorem received_killed (process : Nat) (c : Connection) :
    (killed process c).received = c.received := received_setPeer Peer.kill_received process _

/-- The newest process receives what is written meanwhile, and no other
receives anything. -/
def Feeds (c d : Connection) : Prop :=
  ∃ messages, d.sent = c.sent ++ messages ∧ d.received = c.received.modifyHead (· ++ messages)

theorem feeds_of_eq (hs : d.sent = c.sent) (hr : d.received = c.received) : Feeds c d := by
  refine ⟨[], by rw [hs, List.append_nil], ?_⟩
  rw [hr]
  cases c.received <;> simp

theorem Feeds.trans (h : Feeds c d) (h' : Feeds d e) : Feeds c e := by
  obtain ⟨first, hs, hr⟩ := h
  obtain ⟨second, hs', hr'⟩ := h'
  refine ⟨first ++ second, by rw [hs', hs, List.append_assoc], ?_⟩
  rw [hr', hr]
  cases c.received <;> simp

theorem reverse_modify_last {α : Type} {xs : List α} {i : Nat} (h : i + 1 = xs.length)
    (f : α → α) : (xs.modify i f).reverse = xs.reverse.modifyHead f := by
  obtain rfl | ⟨ys, y, rfl⟩ := List.eq_nil_or_concat xs
  · simp at h
  · obtain rfl : i = ys.length := by simpa using h
    simp [List.modify_eq_take_drop]

theorem feeds_write (hc : Newest c) {message : Json} {answers : Bool} {outcome : Except Failure Unit}
    (h : write b message c answers = (outcome, d)) : Feeds c d := by
  cases outcome with
  | error e => exact write_error h ▸ feeds_of_eq rfl rfl
  | ok _ =>
      obtain ⟨i, p, acts, hi, -, -, rfl⟩ := write_ok h
      have hlast : i + 1 = (c.processes.map Peer.received).length := by simpa using hc i hi
      refine ⟨[message], rfl, ?_⟩
      rw [received, received, ← reverse_modify_last hlast]
      refine congrArg List.reverse (List.ext_getElem? fun j => ?_)
      simp only [setPeer, List.getElem?_map, List.getElem?_modify]
      by_cases hij : i = j
      · cases c.processes[j]? <;> simp [hij, Peer.take_received]
      · simp [hij]

theorem feeds_send (hc : Newest c) {method : String} {params : Json} {outcome : Except Failure Nat}
    (h : send b method params c = (outcome, d)) : Feeds c d := by
  unfold send at h
  split at h
  next =>
    obtain ⟨-, rfl⟩ := Prod.mk.inj h
    exact feeds_of_eq rfl rfl
  next =>
    simp only at h
    split at h
    all_goals
      next written hw =>
        obtain ⟨-, rfl⟩ := Prod.mk.inj h
        exact (feeds_write (c := { c with
          nextId := c.nextId + 1, pending := c.pending ++ [c.nextId] }.note .debug _) hc hw :
            Feeds c written)

theorem feeds_deliver {id message : Json} {outcome : Except Failure Unit}
    (h : deliver id message c = (outcome, d)) : Feeds c d := by
  unfold deliver at h
  split at h
  next => exact (Prod.mk.inj h).2 ▸ feeds_of_eq rfl rfl
  next => exact (Prod.mk.inj h).2 ▸ feeds_of_eq rfl rfl
  next =>
    split at h
    next =>
      obtain ⟨-, rfl⟩ := Prod.mk.inj h
      split <;> exact feeds_of_eq rfl rfl
    next => exact (Prod.mk.inj h).2 ▸ feeds_of_eq rfl rfl

theorem feeds_dispatch (hc : Newest c) {message : Json} {outcome : Except Failure Unit}
    (h : dispatch b message c = (outcome, d)) : Feeds c d := by
  unfold dispatch at h
  split at h
  next =>
    split at h
    next => exact feeds_write (c := c.note .debug _) hc h
    next => exact (Prod.mk.inj h).2 ▸ feeds_of_eq rfl rfl
    next => exact feeds_deliver h
  all_goals exact (Prod.mk.inj h).2 ▸ feeds_of_eq rfl rfl

theorem feeds_hear (hc : Newest c) {i : Nat} {rest : List UInt8} {message : Json}
    {outcome : Except Failure Unit}
    (h : dispatch b message (c.setPeer i fun p => { p with output := rest }) = (outcome, d)) :
    Feeds c d := by
  have hnewest : Newest (c.setPeer i fun p => { p with output := rest }) :=
    (steady_taken i rest c).toWanes.newest hc
  have htaken : Feeds c (c.setPeer i fun p => { p with output := rest }) :=
    feeds_of_eq rfl (received_setPeer (f := fun p => { p with output := rest }) (fun _ => rfl) i c)
  exact htaken.trans (feeds_dispatch hnewest h)

theorem Move.feeds (h : Move b c incidents d) (hl : .launched ∉ incidents) (hc : Newest c) :
    Feeds c d := by
  cases h with
  | acts i acts => exact feeds_of_eq rfl (received_setPeer (fun p => p.performAll_received acts) i c)
  | records | discards | awaitsEnd | seesEnd | drops | reorders => exact feeds_of_eq rfl rfl
  | launches h => simp at hl
  | asks h hq hfree => exact (feeds_send hc h).trans (feeds_of_eq rfl rfl)
  | asksInVain h => exact feeds_send hc h
  | tells h => exact feeds_write hc h
  | hears hp hr hn hnull h => exact feeds_hear hc h
  | closes hp hr => exact feeds_of_eq rfl (received_endReading ..)
  | dies hp hr hn hnull h he =>
      exact (feeds_hear hc h).trans (feeds_of_eq rfl (received_endReading ..))
  | stops ticket process ending =>
      obtain ⟨e, -, heq⟩ | ⟨i, -, -, heq⟩ | ⟨-, heq⟩ := finishStop_cases ticket process ending c
      · exact heq ▸ feeds_of_eq rfl (received_killed process c)
      · have hended := (received_endReading i .finished (killed process c)).trans
          (received_killed process c)
        exact heq ▸ feeds_of_eq rfl hended
      · exact heq ▸ feeds_of_eq rfl (received_killed process c)
  | completes | breaks =>
      unfold handOver
      split <;> exact feeds_of_eq rfl rfl

def follow (lives : List (List Incident)) : Incident → List (List Incident)
  | .launched => [] :: lives
  | i => lives.modifyHead (· ++ [i])

/-- An account cut at its launches. The newest life comes first, and each
begins after the launch of its process. -/
def lives (account : List Incident) : List (List Incident) := account.foldl follow []

theorem follow_of_ne {i : Incident} (h : i ≠ .launched) (lives : List (List Incident)) :
    follow lives i = lives.modifyHead (· ++ [i]) := by
  cases i <;> first | rfl | exact absurd rfl h

theorem lives_append_launched (account : List Incident) :
    lives (account ++ [.launched]) = [] :: lives account := List.foldl_append

theorem lives_append (account : List Incident) (h : .launched ∉ later) :
    lives (account ++ later) = (lives account).modifyHead (· ++ later) := by
  rw [lives, List.foldl_append, ← lives]
  generalize lives account = old
  induction later generalizing old with
  | nil => cases old <;> simp
  | cons i later ih =>
      obtain ⟨hi, hlater⟩ := not_or.mp (mt List.mem_cons.mpr h)
      rw [List.foldl_cons, follow_of_ne (Ne.symm hi), ih hlater]
      cases old <;> simp

theorem lives_cons {older : List (List Incident)} (h : lives account = life :: older) :
    life <:+ account ∧ ∀ old ∈ older, old <:+: account := by
  -- the newest life reaches up to the end, and the others are over
  induction account using List.reverseRecOn generalizing life older with
  | nil => simp [lives] at h
  | append_singleton account i ih =>
      have hpart : account <:+: account ++ [i] := (List.prefix_append ..).isInfix
      by_cases hi : i = .launched
      · subst hi
        rw [lives_append_launched] at h
        obtain ⟨rfl, rfl⟩ := List.cons.inj h
        refine ⟨List.nil_suffix, fun old hold => ?_⟩
        cases hl : lives account with
        | nil => simp [hl] at hold
        | cons newest older =>
            obtain ⟨hsuffix, hrest⟩ := ih hl
            rw [hl] at hold
            obtain rfl | hold := List.mem_cons.mp hold
            · exact hsuffix.isInfix.trans hpart
            · exact (hrest old hold).trans hpart
      · rw [lives_append account (by simpa using Ne.symm hi)] at h
        cases hl : lives account with
        | nil => simp [hl] at h
        | cons newest rest =>
            rw [hl, List.modifyHead_cons] at h
            obtain ⟨rfl, rfl⟩ := List.cons.inj h
            obtain ⟨hsuffix, hrest⟩ := ih hl
            exact ⟨List.suffix_append_self_iff.mpr hsuffix, fun old hold =>
              (hrest old hold).trans hpart⟩

theorem infix_of_mem_lives (h : life ∈ lives account) : life <:+: account := by
  obtain ⟨newest, older, hl⟩ := List.exists_cons_of_ne_nil (List.ne_nil_of_mem h)
  obtain ⟨hsuffix, holder⟩ := lives_cons hl
  obtain rfl | h := List.mem_cons.mp (hl ▸ h)
  · exact hsuffix.isInfix
  · exact holder life h

theorem Moves.received (h : Moves b c account d) (hc : c.processes = []) (hnewest : Newest c) :
    d.received = (lives account).map (List.filterMap Incident.written?) := by
  induction h with
  | refl => simp [Connection.received, hc, lives]
  | @tail d e account incidents hm last ih =>
      -- a launch begins a life in which nothing was received; all else belongs to the newest
      by_cases hl : .launched ∈ incidents
      · obtain ⟨rfl, rfl⟩ := last.launched hl
        rw [lives_append_launched, List.map_cons, ← ih]
        simp [Connection.received, Peer.fresh]
      · obtain ⟨messages, hs, hr⟩ := last.feeds hl (hm.newest hnewest)
        obtain rfl : messages = incidents.filterMap Incident.written? :=
          List.append_cancel_left (hs.symm.trans last.sent)
        rw [hr, ih, lives_append account hl]
        cases lives account <;> simp

end Connection

end CodeAtlas.Wire
