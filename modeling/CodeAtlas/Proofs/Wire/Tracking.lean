import CodeAtlas.Proofs.Wire.Phases
import CodeAtlas.Proofs.Wire.Steps
import Mathlib.Data.List.Nodup
import Mathlib.Data.List.Pairwise

namespace CodeAtlas.Wire.Connection

variable {b : Behaviour} {c d : Connection} {account incidents : List Incident}

structure Tracked (account : List Incident) (c : Connection) : Prop where
  ordered : (account.filterMap Incident.askedId?).Pairwise (· < ·)
  below : ∀ id ∈ account.filterMap Incident.askedId?, id < c.nextId
  waiting : ∀ id, id ∈ c.pending ↔ phase id account = .waiting
  answered : ∀ id reply, (id, reply) ∈ c.replies ↔ phase id account = .answered reply
  distinct : (c.pending ++ c.replies.map Prod.fst).Nodup
  tickets : (c.tasks.map Task.ticket).Nodup
  tasks : ∀ t id, t.id? = some id →
    (t ∈ c.tasks ↔ (∃ params, .asked t params ∈ account) ∧ (phase id account).isOpen = true)
  lawful : Lawful account
  idle : Idle c

theorem Tracked.start {command : List String} {root : Path} {timeout : Seconds} {ownId : Nat}
    (h : fresh command root timeout ownId = .ok c) : Tracked [] c := by
  obtain rfl := fresh_ok h
  constructor <;> simp [phase, Phase.afterAll, Lawful, Idle, Phase.isOpen]

theorem Move.tickets (h : Move b c incidents d) (hc : (c.tasks.map Task.ticket).Nodup) :
    (d.tasks.map Task.ticket).Nodup := by
  obtain heq | ⟨t, hfree, heq, -⟩ | ⟨t, -, heq, -⟩ := h.tasks
  · exact heq ▸ hc
  · rw [heq, List.map_append, List.nodup_append]
    refine ⟨hc, by simp, ?_⟩
    simpa [isWaiting] using hfree
  · exact heq ▸ hc.sublist (List.filter_sublist.map _)

theorem Moves.tickets (h : Moves b c account d) (hc : (c.tasks.map Task.ticket).Nodup) :
    (d.tasks.map Task.ticket).Nodup := by
  induction h with
  | refl => exact hc
  | tail _ last ih => exact last.tickets ih

theorem askedIds_append_calm (account : List Incident) (htask : ∀ i ∈ incidents, i.askedId? = none) :
    (account ++ incidents).filterMap Incident.askedId? = account.filterMap Incident.askedId? := by
  rw [List.filterMap_append, List.filterMap_eq_nil_iff.mpr htask, List.append_nil]

theorem Tracked.calm (h : Tracked account c) (htask : ∀ i ∈ incidents, i.task? = none)
    (hsettle : ∀ id ∈ c.pending, ∀ i ∈ incidents, i.settles? id = none)
    (hpending : d.pending = c.pending) (hreplies : d.replies = c.replies)
    (hnext : c.nextId ≤ d.nextId) (htickets : (d.tasks.map Task.ticket).Nodup)
    (htasks : ∀ t, t.id? ≠ none → (t ∈ d.tasks ↔ t ∈ c.tasks)) (hidle : Idle d) :
    Tracked (account ++ incidents) d := by
  have hphase (id : Nat) : phase id (account ++ incidents) = phase id account :=
    phase_append_other (fun i hi => by simp [Incident.about?, htask i hi])
      fun hw => hsettle id ((h.waiting id).mpr hw)
  have hids := askedIds_append_calm account fun i hi => by
    have hi := htask i hi
    show i.askedId? = none
    cases i <;> simp_all [Incident.askedId?, Incident.task?]
  have hasked (t : Task) (params : Json) : .asked t params ∉ incidents := fun hi => by
    simpa [Incident.task?] using htask _ hi
  have hcompleted (t : Task) (outcome : Except Failure Json) : .completed t outcome ∉ incidents :=
    fun hi => by simpa [Incident.task?] using htask _ hi
  constructor
  case ordered => exact hids ▸ h.ordered
  case below => exact fun id hid => Nat.lt_of_lt_of_le (h.below id (hids ▸ hid)) hnext
  case waiting => exact fun id => by rw [hpending, hphase, h.waiting]
  case answered => exact fun id reply => by rw [hreplies, hphase, h.answered]
  case distinct =>
    rw [hpending, hreplies]
    exact h.distinct
  case tickets => exact htickets
  case tasks =>
    intro t id ht
    rw [htasks t (by simp [ht]), hphase, h.tasks t id ht]
    simp [hasked]
  case lawful => exact h.lawful.append_other hcompleted
  case idle => exact hidle

theorem Tracked.key_asked (h : Tracked account c) {id : Nat}
    (hid : id ∈ c.pending ++ c.replies.map Prod.fst) : id ∈ account.filterMap Incident.askedId? := by
  refine Decidable.byContradiction fun hnew => ?_
  have hphase := phase_eq_unasked.mpr hnew
  obtain hid | hid := List.mem_append.mp hid
  · simp [(h.waiting id).mp hid] at hphase
  · obtain ⟨⟨_, reply⟩, hreply, rfl⟩ := List.mem_map.mp hid
    simp [(h.answered _ reply).mp hreply] at hphase

theorem Tracked.ask (h : Tracked account c) {t : Task} {method : String} {params : Json}
    (ht : t.id? = some c.nextId)
    (htable : d.table = { c.table.ask method params with tasks := c.tasks ++ [t] })
    (htickets : (d.tasks.map Task.ticket).Nodup) (hidle : Idle d) :
    Tracked (account ++ [Incident.asked t params]) d := by
  have hpending : d.pending = c.pending ++ [c.nextId] := congrArg Table.pending htable
  have hreplies : d.replies = c.replies := congrArg Table.replies htable
  have hnext : d.nextId = c.nextId + 1 := congrArg Table.nextId htable
  have htasks : d.tasks = c.tasks ++ [t] := congrArg Table.tasks htable
  have hids : (account ++ [Incident.asked t params]).filterMap Incident.askedId? =
      account.filterMap Incident.askedId? ++ [c.nextId] := by
    simp [Incident.askedId?, ht]
  -- the number is new, so the life of the request begins here
  have hnew : c.nextId ∉ account.filterMap Incident.askedId? := fun hid =>
    Nat.lt_irrefl _ (h.below _ hid)
  have hunasked : phase c.nextId account = .unasked := phase_eq_unasked.mpr hnew
  have hself : phase c.nextId (account ++ [Incident.asked t params]) = .waiting := phase_asked ht hnew
  have hother {id : Nat} (hne : id ≠ c.nextId) :
      phase id (account ++ [Incident.asked t params]) = phase id account :=
    phase_append_other (by simp [Incident.about?, Incident.task?, ht, hne.symm])
      (by simp [Incident.settles?])
  constructor
  case ordered =>
    rw [hids, List.pairwise_append]
    exact ⟨h.ordered, List.pairwise_singleton .., by simpa using h.below⟩
  case below =>
    rw [hids, hnext]
    intro id hid
    obtain hid | hid := List.mem_append.mp hid
    · exact Nat.lt_succ_of_lt (h.below id hid)
    · exact List.mem_singleton.mp hid ▸ Nat.lt_succ_self _
  case waiting =>
    intro id
    rw [hpending, List.mem_append, List.mem_singleton]
    by_cases hid : id = c.nextId
    · simp [hid, hself]
    · simp [hid, hother hid, h.waiting]
  case answered =>
    intro id reply
    rw [hreplies, h.answered]
    by_cases hid : id = c.nextId
    · simp [hid, hself, hunasked]
    · rw [hother hid]
  case distinct =>
    have hfree : c.nextId ∉ c.pending ++ c.replies.map Prod.fst := fun hid => hnew (h.key_asked hid)
    rw [hpending, hreplies, List.append_assoc, List.singleton_append]
    exact (List.perm_middle.nodup_iff).mpr (List.nodup_cons.mpr ⟨hfree, h.distinct⟩)
  case tickets => exact htickets
  case tasks =>
    intro u id hu
    rw [htasks, List.mem_append, List.mem_singleton]
    by_cases hid : id = c.nextId
    · subst hid
      have hnot : u ∉ c.tasks := fun hmem => by
        have hopen := ((h.tasks u _ hu).mp hmem).2
        simp [hunasked, Phase.isOpen] at hopen
      have hnone (params : Json) : Incident.asked u params ∉ account := fun hmem =>
        hnew (List.mem_filterMap.mpr ⟨_, hmem, hu⟩)
      simp [hself, Phase.isOpen, hnot, hnone]
    · have hne : u ≠ t := fun he => hid (Option.some.inj (hu.symm.trans (he ▸ ht)))
      rw [hother hid, h.tasks u id hu]
      simp [hne]
  case lawful => exact h.lawful.append_other (by simp)
  case idle => exact hidle

theorem Tracked.reply (h : Tracked account c) {id : Nat} {message : Json} (hid : id ∈ c.pending)
    (hreply : isReplyTo id message = true) (htable : d.table = c.table.reply id message)
    (hidle : Idle d) : Tracked (account ++ [Incident.heard message]) d := by
  have hpending : d.pending = c.pending.filter (· != id) := congrArg Table.pending htable
  have hreplies : d.replies = c.replies ++ [(id, .ok message)] := congrArg Table.replies htable
  have hnext : d.nextId = c.nextId := congrArg Table.nextId htable
  have htasks : d.tasks = c.tasks := congrArg Table.tasks htable
  -- the message replies to one request only, so the others stay as they are
  have hself : phase id (account ++ [Incident.heard message]) = .answered (.ok message) := by
    rw [phase_concat, (h.waiting id).mp hid]
    simp [Phase.after, Incident.settles?, hreply]
  have hother {n : Nat} (hne : n ≠ id) :
      phase n (account ++ [Incident.heard message]) = phase n account := by
    refine phase_append_other (by simp [Incident.about?, Incident.task?]) fun _ => ?_
    have hn : isReplyTo n message = false :=
      Bool.eq_false_iff.mpr fun hn => hne (isReplyTo_unique hn hreply)
    simp [Incident.settles?, hn]
  have hopen (n : Nat) :
      (phase n (account ++ [Incident.heard message])).isOpen = (phase n account).isOpen := by
    by_cases hn : n = id
    · rw [hn, hself, (h.waiting id).mp hid]
      rfl
    · rw [hother hn]
  have hids : (account ++ [Incident.heard message]).filterMap Incident.askedId? = _ :=
    askedIds_append_calm account (by simp [Incident.askedId?])
  constructor
  case ordered => exact hids ▸ h.ordered
  case below => exact hnext ▸ hids ▸ h.below
  case waiting =>
    intro n
    rw [hpending, List.mem_filter]
    by_cases hn : n = id
    · simp [hn, hself]
    · simp [hn, hother hn, h.waiting]
  case answered =>
    intro n reply
    rw [hreplies, List.mem_append, h.answered, List.mem_singleton]
    by_cases hn : n = id
    · simp [hn, hself, (h.waiting id).mp hid, eq_comm]
    · simp [hn, hother hn]
  case distinct =>
    have hperm : c.pending.Perm (id :: c.pending.filter (· != id)) := by
      rw [← (List.nodup_append.mp h.distinct).1.erase_eq_filter]
      exact List.perm_cons_erase hid
    rw [hpending, hreplies, List.map_append, ← List.append_assoc]
    refine (List.Perm.nodup_iff ?_).mp h.distinct
    exact (hperm.append_right _).trans (List.perm_append_singleton id _).symm
  case tickets => exact htasks ▸ h.tickets
  case tasks =>
    intro t n ht
    rw [htasks, h.tasks t n ht, hopen]
    simp
  case lawful => exact h.lawful.append_other (by simp)
  case idle => exact hidle

theorem Tracked.cut (h : Tracked account c) (hpending : d.pending = [])
    (hreplies : d.replies = c.replies ++ c.pending.map fun id => (id, .error (.unavailable .exited)))
    (hnext : d.nextId = c.nextId) (htasks : d.tasks = c.tasks) :
    Tracked (account ++ [Incident.cut]) d := by
  have hphase (id : Nat) : phase id (account ++ [Incident.cut]) = (phase id account).after id .cut :=
    phase_concat ..
  have hids : (account ++ [Incident.cut]).filterMap Incident.askedId? = _ :=
    askedIds_append_calm account (by simp [Incident.askedId?])
  constructor
  case ordered => exact hids ▸ h.ordered
  case below => exact hnext ▸ hids ▸ h.below
  case waiting =>
    intro id
    rw [hpending, hphase]
    cases phase id account <;>
      simp [Phase.after, Incident.askedId?, Incident.settles?, Incident.completedId?,
        Incident.droppedId?]
  case answered =>
    intro id reply
    -- what waits until now is answered by the news that no reply will come
    have hfailed : (id, reply) ∈ c.pending.map (fun n => (n, .error (.unavailable .exited))) ↔
        phase id account = .waiting ∧ .error (.unavailable .exited) = reply := by
      rw [← h.waiting, List.mem_map]
      constructor
      · rintro ⟨n, hn, heq⟩
        obtain ⟨rfl, rfl⟩ := Prod.mk.inj heq
        exact ⟨hn, rfl⟩
      · rintro ⟨hn, rfl⟩
        exact ⟨id, hn, rfl⟩
    rw [hreplies, List.mem_append, h.answered, hfailed, hphase]
    cases phase id account <;>
      simp [Phase.after, Incident.askedId?, Incident.settles?, Incident.completedId?,
        Incident.droppedId?]
  case distinct =>
    rw [hpending, hreplies, List.map_append, List.map_map, List.nil_append]
    have hkeys := List.perm_append_comm.nodup_iff.mp h.distinct
    rwa [← List.map_id c.pending] at hkeys
  case tickets => exact htasks ▸ h.tickets
  case tasks =>
    intro t id ht
    rw [htasks, h.tasks t id ht, hphase]
    cases phase id account <;>
      simp [Phase.isOpen, Phase.after, Incident.askedId?, Incident.settles?, Incident.completedId?,
        Incident.droppedId?]
  case lawful => exact h.lawful.append_other (by simp)
  case idle => exact fun _ => hpending

theorem Tracked.asked_new (h : Tracked account c) {before after : List Incident} {t : Task}
    {params : Json} {id : Nat} (heq : account = before ++ .asked t params :: after)
    (hid : t.id? = some id) : id ∉ before.filterMap Incident.askedId? := fun hold => by
  have hasked : (Incident.asked t params).askedId? = some id := hid
  have hordered := h.ordered
  rw [heq, List.filterMap_append, List.filterMap_cons_some hasked, List.pairwise_append] at hordered
  exact Nat.lt_irrefl _ (hordered.2.2 id hold id List.mem_cons_self)

theorem Tracked.asker_unique (h : Tracked account c) {t u : Task} {p q : Json} {id : Nat}
    (ht : .asked t p ∈ account) (hu : .asked u q ∈ account) (hti : t.id? = some id)
    (hui : u.id? = some id) : t = u := by
  have hpairs := List.pairwise_filterMap.mp (h.ordered.imp Nat.ne_of_lt)
  have hsymm : Std.Symm fun i j : Incident =>
      ∀ m, i.askedId? = some m → ∀ n, j.askedId? = some n → m ≠ n :=
    ⟨fun i j hij m hm n hn => (hij n hn m hm).symm⟩
  by_contra hne
  exact hpairs.forall ht hu (fun he => hne (Incident.asked.inj he).1) id hti id hui rfl

theorem Tracked.task_unique (h : Tracked account c) {t u : Task} (ht : t ∈ c.tasks) (hu : u ∈ c.tasks)
    (heq : t.ticket = u.ticket) : t = u := List.inj_on_of_nodup_map h.tickets ht hu heq

theorem Tracked.tasks_done (h : Tracked account c) {t : Task} {id : Nat} (ht : t ∈ c.tasks)
    (hid : t.id? = some id) {incidents : List Incident} (hasked : ∀ u p, .asked u p ∉ incidents)
    (hself : (phase id (account ++ incidents)).isOpen = false)
    (hother : ∀ n, n ≠ id → phase n (account ++ incidents) = phase n account) (u : Task) (n : Nat)
    (hu : u.id? = some n) :
    (u ∈ c.tasks.filter fun v => v.ticket != t.ticket) ↔
      (∃ p, .asked u p ∈ account ++ incidents) ∧ (phase n (account ++ incidents)).isOpen = true := by
  obtain ⟨⟨p, htp⟩, hopen⟩ := (h.tasks t id hid).mp ht
  have hmem : (∃ p, .asked u p ∈ account ++ incidents) ↔ ∃ p, .asked u p ∈ account := by
    simp [hasked]
  rw [List.mem_filter, hmem]
  -- the request has one task and the ticket one, so no other task goes
  by_cases hn : n = id
  · subst hn
    rw [hself]
    simp only [bne_iff_ne, Bool.false_eq_true, and_false, iff_false, not_and, Decidable.not_not]
    intro hmem
    obtain ⟨⟨q, huq⟩, -⟩ := (h.tasks u n hu).mp hmem
    exact congrArg Task.ticket (h.asker_unique huq htp hu hid)
  · rw [hother n hn, ← h.tasks u n hu]
    have hne : u ≠ t := by
      rintro rfl
      exact hn (Option.some.inj (hu.symm.trans hid))
    simp only [bne_iff_ne, and_iff_left_iff_imp]
    exact fun hmem heq => hne (h.task_unique hmem ht heq)

theorem Tracked.complete (h : Tracked account c) {t : Task} {id : Nat} {method : String}
    {reply : Except Failure Json} {rest : List (Nat × Except Failure Json)}
    (hr : c.replies = (id, reply) :: rest) (ht : t ∈ c.tasks)
    (hq : t.stage.question? = some (id, method)) (hpending : d.pending = c.pending)
    (hreplies : d.replies = rest) (hnext : d.nextId = c.nextId)
    (htasks : d.tasks = c.tasks.filter fun u => u.ticket != t.ticket) (hidle : Idle d) :
    Tracked (account ++ [Incident.completed t (reply.bind (resultOf method))]) d := by
  have hid : t.id? = some id := Task.id?_eq_some.mpr ⟨method, hq⟩
  have hphase : phase id account = .answered reply := (h.answered id reply).mp (by simp [hr])
  have hself : phase id (account ++ [Incident.completed t (reply.bind (resultOf method))]) =
      .completed reply := by
    rw [phase_concat, hphase]
    simp [Phase.after, Incident.completedId?, hid]
  have hother (n : Nat) (hn : n ≠ id) :
      phase n (account ++ [Incident.completed t (reply.bind (resultOf method))]) = phase n account :=
    phase_append_other (by simp [Incident.about?, Incident.task?, hid, hn.symm])
      (by simp [Incident.settles?])
  have hids : (account ++ [Incident.completed t (reply.bind (resultOf method))]).filterMap
      Incident.askedId? = _ := askedIds_append_calm account (by simp [Incident.askedId?])
  have hdistinct := h.distinct
  rw [hr, List.map_cons, List.perm_middle.nodup_iff, List.nodup_cons] at hdistinct
  obtain ⟨hfree, hdistinct⟩ := hdistinct
  constructor
  case ordered => exact hids ▸ h.ordered
  case below => exact hnext ▸ hids ▸ h.below
  case waiting =>
    intro n
    rw [hpending, h.waiting]
    by_cases hn : n = id
    · simp [hn, hself, hphase]
    · rw [hother n hn]
  case answered =>
    intro n reply'
    rw [hreplies]
    by_cases hn : n = id
    · subst hn
      have hnot : (n, reply') ∉ rest := fun hmem =>
        hfree (List.mem_append_right _ (List.mem_map.mpr ⟨_, hmem, rfl⟩))
      simp [hself, hnot]
    · rw [hother n hn, ← h.answered, hr]
      simp [hn]
  case distinct => exact hpending ▸ hreplies ▸ hdistinct
  case tickets => exact htasks ▸ h.tickets.sublist (List.filter_sublist.map _)
  case tasks =>
    rw [htasks]
    exact h.tasks_done ht hid (by simp) (by rw [hself]; rfl) hother
  case lawful =>
    obtain ⟨params, hasked⟩ := ((h.tasks t id hid).mp ht).1
    refine h.lawful.append fun pre u outcome post heq => ?_
    obtain ⟨rfl, heq⟩ | ⟨tail, -, heq⟩ := List.cons_eq_append_iff.mp heq
    · obtain ⟨⟨rfl, rfl⟩, -⟩ := by simpa using heq
      exact ⟨params, id, method, reply, by simpa using hasked, hq, by simpa using hphase, rfl⟩
    · simp at heq
  case idle => exact hidle

theorem Tracked.giveUp (h : Tracked account c) {t : Task} {id : Nat} {i : Incident}
    (hi : i.task? = some t) (hgone : i.droppedId? = some id) (ht : t ∈ c.tasks)
    (hid : t.id? = some id) (hpending : d.pending = c.pending.filter (· != id))
    (hreplies : d.replies = c.replies.filter (·.1 != id)) (hnext : d.nextId = c.nextId)
    (htasks : d.tasks = c.tasks.filter fun u => u.ticket != t.ticket) (hidle : Idle d) :
    Tracked (account ++ [i]) d := by
  obtain ⟨hasked, hsettles, hcompleted⟩ :
      i.askedId? = none ∧ (∀ n, i.settles? n = none) ∧ i.completedId? = none := by
    cases i <;> simp [Incident.droppedId?] at hgone <;>
      simp [Incident.askedId?, Incident.settles?, Incident.completedId?]
  have hself : phase id (account ++ [i]) = .dropped := by
    have hopen := ((h.tasks t id hid).mp ht).2
    rw [phase_concat]
    cases hp : phase id account <;> rw [hp] at hopen <;>
      simp_all [Phase.after, Phase.isOpen]
  have hother (n : Nat) (hn : n ≠ id) : phase n (account ++ [i]) = phase n account :=
    phase_append_other (by simp [Incident.about?, hi, hid, hn.symm]) (by simp [hsettles])
  have hids : (account ++ [i]).filterMap Incident.askedId? = _ :=
    askedIds_append_calm account (by simp [hasked])
  have hnot (u : Task) (params : Json) : .asked u params ∉ [i] := fun hmem => by
    obtain rfl := List.mem_singleton.mp hmem
    simp [Incident.droppedId?] at hgone
  have hnone (u : Task) (outcome : Except Failure Json) : .completed u outcome ∉ [i] := fun hmem => by
    obtain rfl := List.mem_singleton.mp hmem
    simp [Incident.droppedId?] at hgone
  constructor
  case ordered => exact hids ▸ h.ordered
  case below => exact hnext ▸ hids ▸ h.below
  case waiting =>
    intro n
    rw [hpending, List.mem_filter, h.waiting]
    by_cases hn : n = id
    · simp [hn, hself]
    · simp [hn, hother n hn]
  case answered =>
    intro n reply
    rw [hreplies, List.mem_filter, h.answered]
    by_cases hn : n = id
    · simp [hn, hself]
    · simp [hn, hother n hn]
  case distinct =>
    rw [hpending, hreplies]
    exact h.distinct.sublist (List.filter_sublist.append (List.filter_sublist.map _))
  case tickets => exact htasks ▸ h.tickets.sublist (List.filter_sublist.map _)
  case tasks =>
    rw [htasks]
    exact h.tasks_done ht hid hnot (by rw [hself]; rfl) hother
  case lawful => exact h.lawful.append_other hnone
  case idle => exact hidle

theorem Tracked.reorder (h : Tracked account c) {replies : List (Nat × Except Failure Json)}
    (hperm : replies.Perm c.replies) : Tracked account { c with replies } where
  ordered := h.ordered
  below := h.below
  waiting := h.waiting
  answered id reply := hperm.mem_iff.trans (h.answered id reply)
  distinct := ((hperm.map Prod.fst).append_left c.pending).nodup_iff.mpr h.distinct
  tickets := h.tickets
  tasks := h.tasks
  lawful := h.lawful
  idle := h.idle

theorem Idle.steady (h : Idle c) (hs : Steady c d) (hp : d.pending = c.pending) : Idle d :=
  fun hd => hp.trans (h (hs.notReading hd))

theorem hearing_task {message : Json} {outcome : Except Failure Unit} :
    ∀ i ∈ hearing message outcome, i.task? = none := by
  unfold hearing
  split <;> simp [Incident.task?]

theorem hearing_settles {message : Json} {outcome : Except Failure Unit} {id : Nat}
    (h : isReplyTo id message = false) : ∀ i ∈ hearing message outcome, i.settles? id = none := by
  unfold hearing
  split <;> simp [Incident.settles?, h]

theorem handOver_eq (t : Task) (outcome : Except Failure Json) (c : Connection) :
    ∃ reports, handOver t outcome c = { c.dropTask t.ticket with finished := reports } := by
  unfold handOver
  split <;> exact ⟨_, rfl⟩

theorem isReading_launch (c : Connection) (folder : String) :
    isReading { c with
      processes := c.processes ++ [Peer.fresh folder], current := some c.processes.length } = true :=
  isReading_iff.mpr ⟨c.processes.length, Peer.fresh folder, rfl, by simp, rfl⟩

theorem Tracked.awaited (h : Tracked account c) {id : Nat} {reply : Except Failure Json}
    (hr : (id, reply) ∈ c.replies) : ∃ t ∈ c.tasks, t.stage.awaits id = true := by
  have hphase := (h.answered id reply).mp hr
  have hkey : id ∈ c.pending ++ c.replies.map Prod.fst :=
    List.mem_append_right _ (List.mem_map.mpr ⟨_, hr, rfl⟩)
  obtain ⟨i, hi, hid⟩ := List.mem_filterMap.mp (h.key_asked hkey)
  cases i with
  | asked t params =>
      refine ⟨t, (h.tasks t id hid).mpr ⟨⟨params, hi⟩, by rw [hphase]; rfl⟩, ?_⟩
      exact Stage.awaits_iff.mpr (Task.id?_eq_some.mp hid)
  | _ => simp [Incident.askedId?] at hid

theorem Tracked.hear (h : Tracked account c) {i : Nat} {p : Peer} {message : Json} {rest : List UInt8}
    {outcome : Except Failure Unit} (hp : c.processes[i]? = some p) (hr : p.isReading = true)
    (hn : next p.closed p.output = .message message rest) (hnull : message.isNull = false)
    (hd : dispatch b message (c.setPeer i fun p => { p with output := rest }) = (outcome, d)) :
    Tracked (account ++ hearing message outcome) d := by
  have htickets := (Move.hears hp hr hn hnull hd).tickets h.tickets
  obtain ⟨hs, hcases⟩ := dispatch_cases hd
  have hs : Steady c d := (steady_taken i rest c).trans hs
  have calm {t : Table} (ht : d.table = t) (hpending : t.pending = c.pending)
      (hreplies : t.replies = c.replies) (hnext : t.nextId = c.nextId) (htasks : t.tasks = c.tasks)
      (hnone : ∀ id ∈ c.pending, isReplyTo id message = false) :
      Tracked (account ++ hearing message outcome) d := by
    subst ht
    exact h.calm hearing_task (fun id hid => hearing_settles (hnone id hid)) hpending hreplies
      (Nat.le_of_eq hnext.symm) htickets (fun t _ => iff_of_eq (congrArg (t ∈ ·) htasks))
      (h.idle.steady hs hpending)
  obtain ⟨id, hback, -, ht⟩ | ⟨n, hn, hreply, rfl, ht⟩ | ⟨hnone, -, ht⟩ := hcases
  · exact calm ht rfl rfl rfl rfl fun n _ => isReplyTo_of_askedBack hback n
  · have hheard : hearing message (.ok ()) = [.heard message] := by
      simp [hearing, askedBack?_of_isReplyTo hreply]
    rw [hheard]
    have hn : n ∈ c.pending := hn
    refine h.reply hn hreply ht fun hr => ?_
    rw [h.idle (hs.notReading hr)] at hn
    simp at hn
  · exact calm ht rfl rfl rfl rfl hnone

theorem Move.tracked (hm : Move b c incidents d) (h : Tracked account c) :
    Tracked (account ++ incidents) d := by
  have htickets := hm.tickets h.tickets
  cases hm with
  | acts i acts =>
      exact h.calm (by simp) (by simp) rfl rfl (Nat.le_refl _) htickets (fun _ _ => .rfl)
        (h.idle.steady (steady_acts i acts c) rfl)
  | records =>
      exact h.calm (by simp) (by simp) rfl rfl (Nat.le_refl _) htickets (fun _ _ => .rfl)
        (h.idle.steady (.of_eq rfl rfl) rfl)
  | launches hl =>
      refine h.calm (by simp [Incident.task?]) (by simp [Incident.settles?]) rfl rfl (Nat.le_refl _)
        htickets (fun _ _ => .rfl) fun hr => ?_
      rw [isReading_launch] at hr
      exact Bool.noConfusion hr
  | @asks d t id method params hsend hq hfree =>
      -- a request goes out only while its reply can be read
      obtain ⟨rfl, hreading, hs, ht⟩ := send_ok hsend
      have htasks : d.tasks = c.tasks := congrArg Table.tasks ht
      have htable : (d.wait t.ticket t.stage).table =
          { c.table.ask method params with tasks := c.tasks ++ [t] } := by
        rw [← ht, ← htasks]
        rfl
      refine h.ask (Task.id?_eq_some.mpr ⟨method, hq⟩) htable htickets fun hr => ?_
      have hnot : c.isReading = false := hs.notReading hr
      rw [hreading] at hnot
      exact Bool.noConfusion hnot
  | asksInVain hsend =>
      obtain ⟨hs, n, hn, ht⟩ := send_error hsend
      have hpending : d.pending = c.pending := congrArg Table.pending ht
      have htasks : d.tasks = c.tasks := congrArg Table.tasks ht
      have hnext : d.nextId = n := congrArg Table.nextId ht
      exact h.calm (by simp) (by simp) hpending (congrArg Table.replies ht) (hnext ▸ hn) htickets
        (fun t _ => by rw [htasks]) (h.idle.steady hs hpending)
  | tells hw =>
      obtain ⟨hs, ht⟩ := table_write hw
      have hpending : d.pending = c.pending := congrArg Table.pending ht
      have htasks : d.tasks = c.tasks := congrArg Table.tasks ht
      have hnext : d.nextId = c.nextId := congrArg Table.nextId ht
      exact h.calm (by simp [Incident.task?]) (by simp [Incident.settles?]) hpending
        (congrArg Table.replies ht) (Nat.le_of_eq hnext.symm) htickets (fun t _ => by rw [htasks])
        (h.idle.steady hs hpending)
  | hears hp hr hn hnull hd => exact h.hear hp hr hn hnull hd
  | closes hp hr => exact h.cut rfl rfl rfl rfl
  | dies hp hr hn hnull hd he =>
      rw [← List.append_assoc]
      exact (h.hear hp hr hn hnull hd).cut rfl rfl rfl rfl
  | stops ticket process ending =>
      obtain ⟨e, hr, -, ht⟩ | ⟨-, -, ht⟩ := finishStop_spec h.idle ticket process ending
      · have hnot : c.isReading = false := notReading_iff.mpr (by simp [hr])
        rw [← h.idle.cut_of_notReading hnot] at ht
        exact h.cut (congrArg Table.pending ht) (congrArg Table.replies ht) (congrArg Table.nextId ht)
          (congrArg Table.tasks ht)
      · exact h.cut (congrArg Table.pending ht) (congrArg Table.replies ht) (congrArg Table.nextId ht)
          (congrArg Table.tasks ht)
  | @completes t id method reply rest hr ht hq =>
      obtain ⟨reports, heq⟩ := handOver_eq t (reply.bind (resultOf method)) { c with replies := rest }
      rw [heq] at htickets ⊢
      exact h.complete hr ht hq rfl rfl rfl rfl (h.idle.steady (.of_eq rfl rfl) rfl)
  | @discards id reply rest hr hn =>
      -- a reply at hand has a task, so none is ever discarded
      have hmem : (id, reply) ∈ c.replies := hr ▸ List.mem_cons_self
      obtain ⟨t, ht, ha⟩ := h.awaited hmem
      simp [hn t ht] at ha
  | awaitsEnd ticket process ending hfree =>
      refine h.calm (by simp [Incident.task?]) (by simp [Incident.settles?]) rfl rfl (Nat.le_refl _)
        htickets (fun t ht => ?_) (h.idle.steady (.of_eq rfl rfl) rfl)
      have hne : t ≠ ⟨ticket, .leaving process ending⟩ := by
        rintro rfl
        exact ht rfl
      simp [wait, hne]
  | @seesEnd t ht hq =>
      refine h.calm (by simp [Incident.task?]) (by simp [Incident.settles?]) rfl rfl (Nat.le_refl _)
        htickets (fun u hu => ?_) (h.idle.steady (.of_eq rfl rfl) rfl)
      have hne (hmem : u ∈ c.tasks) : u.ticket ≠ t.ticket := fun he => by
        obtain rfl := h.task_unique hmem ht he
        exact hu (by rw [Task.id?, hq]; rfl)
      simpa [dropTask] using hne
  | drops ht hq htimed =>
      have hid := Task.id?_eq_some.mpr ⟨_, hq⟩
      refine h.giveUp rfl hid ht hid rfl rfl rfl rfl fun hr => ?_
      have hempty : c.pending = [] := h.idle hr
      simp [forget, dropTask, hempty]
  | reorders hperm => simpa using h.reorder hperm
  | @breaks t id method reason ht hq =>
      have hid := Task.id?_eq_some.mpr ⟨_, hq⟩
      obtain ⟨reports, heq⟩ := handOver_eq t (.error (.unavailable (.pipeClosed reason))) (c.forget id)
      rw [heq]
      refine h.giveUp rfl hid ht hid rfl rfl rfl rfl fun hr => ?_
      have hempty : c.pending = [] := h.idle hr
      simp [forget, dropTask, hempty]

theorem Moves.tracked (hm : Moves b c incidents d) (h : Tracked account c) :
    Tracked (account ++ incidents) d := by
  induction hm with
  | refl => simpa using h
  | tail _ last ih =>
      rw [← List.append_assoc]
      exact last.tracked ih

end CodeAtlas.Wire.Connection
