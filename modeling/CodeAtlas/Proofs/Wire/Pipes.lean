import CodeAtlas.Proofs.Wire.Replies
import CodeAtlas.Wire.Pipe

namespace CodeAtlas.Wire

namespace Connection

variable {b : Behaviour} {c d : Connection} {held : List Nat} {P : Nat → Prop}

theorem perm_replies (held : List Nat) (c : Connection) :
    ((c.replies.filter fun r => !c.isHeld held r.1) ++
      c.replies.filter fun r => c.isHeld held r.1).Perm c.replies := by
  simpa using List.filter_append_perm (fun r => !c.isHeld held r.1) c.replies

theorem goes_advanceBut (h : advanceBut? b held c = some d) :
    Goes b (fun ticket => c.isWaiting ticket = true) c d := by
  unfold advanceBut? at h
  split at h
  next =>
    obtain ⟨t, hsome, rfl⟩ := Option.map_eq_some_iff.mp h
    have ht : t ∈ c.tasks := List.mem_of_find?_eq_some hsome
    have hleft : c.hasLeft t.stage = true ∧ t.ticket ∉ held := by simpa using List.find?_some hsome
    exact goes_leave ht hleft.1 (isWaiting_iff.mpr ⟨t, ht, rfl⟩)
  next r rest hfree =>
    have hperm := perm_replies held c
    rw [hfree] at hperm
    exact (Move.reorders hperm).goes.trans (goes_advance? h)

theorem work_advanceBut (h : advanceBut? b held c = some d) : d.table.work < c.table.work := by
  unfold advanceBut? at h
  split at h
  next =>
    obtain ⟨t, hsome, rfl⟩ := Option.map_eq_some_iff.mp h
    have hleft : c.hasLeft t.stage = true ∧ t.ticket ∉ held := by simpa using List.find?_some hsome
    exact work_leave (List.mem_of_find?_eq_some hsome) hleft.1
  next r rest hfree =>
    have hlength := (perm_replies held c).length_eq
    rw [hfree] at hlength
    refine (work_advance h).trans_eq ?_
    simp only [Table.work, table, hlength]

theorem advanceBut_eq_none : advanceBut? b held c = none ↔
    (∀ r ∈ c.replies, c.isHeld held r.1 = true) ∧
      ∀ t ∈ c.tasks, c.hasLeft t.stage = true → t.ticket ∈ held := by
  unfold advanceBut?
  split
  next hfree => simpa [List.filter_eq_nil_iff] using fun _ => hfree
  next r rest hfree =>
    have hr : r ∈ c.replies.filter fun r => !c.isHeld held r.1 := hfree ▸ List.mem_cons_self
    obtain ⟨hmem, hnot⟩ := List.mem_filter.mp hr
    refine iff_of_false ?_ fun h => ?_
    · exact fun h => by simpa using (advance?_eq_none.mp h).1
    · simp [h.1 r hmem] at hnot

theorem advanceBut_nil (c : Connection) : advanceBut? b [] c = advance? b c := by
  have hnone (id : Nat) : c.isHeld [] id = false := by simp [isHeld]
  unfold advanceBut?
  cases hr : c.replies with
  | nil => simp [advance?, hr]
  | cons r rest =>
      have hsame : ({ c with replies := r :: rest } : Connection) = c := by rw [← hr]
      simp [hnone, hsame]

theorem goes_breakOff {t : Task} (ht : t ∈ c.tasks) (reason : String) (hP : P t.ticket) :
    Goes b P c (breakOff b t reason c) := by
  obtain ⟨ticket, stage⟩ := t
  have hfree := isWaiting_dropTask ticket c
  cases stage with
  | initializing id value =>
      have hbreaks : Goes b P c ((c.dropTask ticket).forget id) :=
        (Move.breaks reason ht rfl).goesFor rfl hP
      exact hbreaks.trans (goes_beginStop (c := (c.dropTask ticket).forget id) hfree _ hP)
  | calling id method => exact (Move.breaks reason ht rfl).goesFor rfl hP
  | shuttingDown id process ending =>
      have hbreaks : Goes b P c ((c.dropTask ticket).forget id) :=
        (Move.breaks reason ht rfl).goesFor rfl hP
      exact hbreaks.trans (quietly_finishUnclean ..).goes
  | leaving process ending =>
      have hends : Goes b P c (c.dropTask ticket) := (Move.seesEnd ht rfl).goesFor rfl hP
      exact hends.trans (quietly_finishUnclean ..).goes

theorem Tracked.reply_unique {account : List Incident} (h : Tracked account c) {id : Nat}
    {first second : Except Failure Json} (hf : (id, first) ∈ c.replies)
    (hs : (id, second) ∈ c.replies) : first = second :=
  Phase.answered.inj (((h.answered id first).mp hf).symm.trans ((h.answered id second).mp hs))

theorem Tracked.awaiter_unique {account : List Incident} (h : Tracked account c) {t u : Task}
    (ht : t ∈ c.tasks) (hu : u ∈ c.tasks) {id : Nat} (hta : t.stage.awaits id = true)
    (hua : u.stage.awaits id = true) : u = t := by
  have hti := Task.id?_eq_some.mpr (Stage.awaits_iff.mp hta)
  have hui := Task.id?_eq_some.mpr (Stage.awaits_iff.mp hua)
  obtain ⟨⟨params, hasked⟩, -⟩ := (h.tasks t id hti).mp ht
  obtain ⟨⟨others, hother⟩, -⟩ := (h.tasks u id hui).mp hu
  exact h.asker_unique hother hasked hui hti

theorem moves_begin {e : Event}
    (hfree : ∀ ticket, e.ticket? = some ticket → c.isWaiting ticket = false) :
    ∃ account, Moves b c account (begin b c e) ∧
      ∀ i ∈ account, ∀ ticket, i.ticket? = some ticket → e.ticket? = some ticket := by
  have follow {ticket : Nat} (ht : e.ticket? = some ticket) {account : List Incident}
      (h : ∀ i ∈ account, ∀ other, i.ticket? = some other → other = ticket) :
      ∀ i ∈ account, ∀ other, i.ticket? = some other → e.ticket? = some other :=
    fun i hi other ho => h i hi other ho ▸ ht
  cases e with
  | start ticket value =>
      obtain ⟨account, hm, hP⟩ := moves_beginStart (b := b) (hfree ticket rfl) value
      exact ⟨account, hm, follow rfl hP⟩
  | stop ticket =>
      obtain ⟨account, hm, hP⟩ :=
        goes_beginStop (b := b) (P := (· = ticket)) (hfree ticket rfl) (.ok .null) rfl
      exact ⟨account, hm, follow rfl fun i hi => (hP i hi).2⟩
  | request ticket method params =>
      obtain ⟨account, hm, hP, -⟩ := moves_beginRequest (b := b) (hfree ticket rfl) method params
      exact ⟨account, hm, follow rfl fun i hi => (hP i hi).2⟩
  | notify ticket method params =>
      obtain ⟨account, hm, hP⟩ := goes_doNotify (b := b) (P := (· = ticket)) ticket method params c
      exact ⟨account, hm, follow rfl fun i hi => (hP i hi).2⟩
  | output acts => exact ⟨_, (Move.acts c _ acts).moves, by simp⟩

end Connection

namespace Piped

open Connection (Moves Incident Drained Goes Tracked resultOf)

variable {b : Behaviour} {p : Piped} {c : Connection} {account : List Incident} {held : List Nat}

def Event.ticket? : Event → Option Nat
  | .goes e | .holds e => e.ticket?
  | _ => none

/-- Everything is read, and only calls that are held back have anything to
go on with. -/
structure Rested (b : Behaviour) (p : Piped) : Prop where
  drained : Drained p.connection
  stuck : Connection.advanceBut? b p.held p.connection = none

theorem rested_step (p : Piped) (e : Event) : Rested b (step b p e) := by
  obtain ⟨hdrained, hstuck⟩ := Connection.settleWithin_rests (b := b) Connection.work_advanceBut
    (Connection.work_lt_bound (begin b p e).connection)
  exact ⟨hdrained, hstuck⟩

theorem rested_run {events : List Event} (h : Rested b p) : Rested b (run b p events) := by
  induction events generalizing p with
  | nil => exact h
  | cons e events ih => exact ih (rested_step p e)

theorem rested_of_settled (h : Connection.Settled b c) : Rested b ⟨c, []⟩ :=
  ⟨h.drained, (Connection.advanceBut_nil c).trans h.stuck⟩

theorem Rested.settle (h : Rested b p) : settle b p = p := by
  have hsettled : Connection.settleWithin b (Connection.advanceBut? b p.held)
      p.connection.settlingBound p.connection = p.connection := by
    unfold Connection.settlingBound Connection.settleWithin
    simp only [h.drained.drainAll, h.stuck]
  simp only [Piped.settle, hsettled]

theorem Rested.report (h : Rested b ⟨c, held⟩) (ticket : Nat) (ending : Ending) :
    Rested b ⟨c.report ticket ending, held⟩ := by
  have hnone := Connection.advanceBut_eq_none.mp h.stuck
  exact ⟨h.drained, Connection.advanceBut_eq_none.mpr hnone⟩

theorem goes_settle (p : Piped) :
    Goes b (fun ticket => p.connection.isWaiting ticket = true) p.connection
      (settle b p).connection :=
  Connection.goes_settleWithin Connection.goes_advanceBut ..

theorem step_goes (e : Connection.Event) (hstop : ∀ ticket, e ≠ .stop ticket) :
    step b ⟨c, []⟩ (.goes e) = ⟨Connection.step b c e, []⟩ := by
  have hadvance : Connection.advanceBut? b [] = Connection.advance? b :=
    funext Connection.advanceBut_nil
  cases e with
  | stop ticket => exact absurd rfl (hstop ticket)
  | start | request | notify | output =>
      simp only [step, begin, settle, hadvance]
      rfl

theorem moves_begin {e : Event}
    (hfree : ∀ ticket, e.ticket? = some ticket → p.connection.isWaiting ticket = false) :
    ∃ account, Moves b p.connection account (begin b p e).connection ∧
      ∀ i ∈ account, ∀ ticket, i.ticket? = some ticket →
        p.connection.isWaiting ticket = true ∨ e.ticket? = some ticket := by
  -- what befalls a call that waits is one of its own moves
  have own {t : Task} (ht : t ∈ p.connection.tasks) {d : Connection}
      (h : Goes b (· = t.ticket) p.connection d) :
      ∃ account, Moves b p.connection account d ∧ ∀ i ∈ account, ∀ ticket, i.ticket? = some ticket →
        p.connection.isWaiting ticket = true ∨ e.ticket? = some ticket := by
    obtain ⟨account, hm, hP⟩ := h
    refine ⟨account, hm, fun i hi ticket hticket => .inl ?_⟩
    exact Connection.isWaiting_iff.mpr ⟨t, ht, ((hP i hi).2 ticket hticket).symm⟩
  cases e with
  | goes e | holds e =>
      obtain ⟨account, hm, hP⟩ := Connection.moves_begin (b := b) hfree
      exact ⟨account, hm, fun i hi ticket ht => .inr (hP i hi ticket ht)⟩
  | takes ticket => exact ⟨[], .refl, by simp⟩
  | breaks ticket reason =>
      simp only [begin]
      split
      next => exact ⟨[], .refl, by simp⟩
      next t hsome =>
        have ht : t ∈ p.connection.tasks := List.mem_of_find?_eq_some hsome
        exact own ht (Connection.goes_breakOff ht reason rfl)
  | expires ticket =>
      simp only [begin]
      split
      next => exact ⟨[], .refl, by simp⟩
      next t hsome =>
        have ht : t ∈ p.connection.tasks := List.mem_of_find?_eq_some hsome
        have htimed : t.ticket = ticket ∧ t.stage.isTimed = true := by
          simpa using List.find?_some hsome
        exact own ht (Connection.goes_expire ht htimed.2 rfl)

theorem moves_step {e : Event}
    (hfree : ∀ ticket, e.ticket? = some ticket → p.connection.isWaiting ticket = false) :
    ∃ account, Moves b p.connection account (step b p e).connection ∧
      ∀ i ∈ account, ∀ ticket, i.ticket? = some ticket →
        p.connection.isWaiting ticket = true ∨ e.ticket? = some ticket := by
  obtain ⟨xs, hx, hxs⟩ := moves_begin (b := b) hfree
  obtain ⟨ys, hy, hys⟩ := goes_settle (b := b) (begin b p e)
  refine ⟨xs ++ ys, hx.trans hy, List.forall_mem_append.mpr ⟨hxs, fun i hi ticket ht => ?_⟩⟩
  obtain hw | ⟨j, hj, hjt⟩ := hx.waits ((hys i hi).2 ticket ht)
  · exact .inl hw
  · exact hxs j hj ticket hjt

theorem moves_run {events : List Event} (hd : (events.filterMap Event.ticket?).Nodup)
    (hfree : ∀ ticket ∈ events.filterMap Event.ticket?, p.connection.isWaiting ticket = false) :
    ∃ account, Moves b p.connection account (run b p events).connection := by
  induction events generalizing p with
  | nil => exact ⟨[], .refl⟩
  | cons e events ih =>
      have hhead (ticket : Nat) (ht : e.ticket? = some ticket) :
          p.connection.isWaiting ticket = false ∧ ticket ∉ events.filterMap Event.ticket? := by
        rw [List.filterMap_cons, ht] at hd hfree
        exact ⟨hfree ticket List.mem_cons_self, (List.nodup_cons.mp hd).1⟩
      have hsub := (List.sublist_cons_self e events).filterMap Event.ticket?
      obtain ⟨xs, hx, hxs⟩ := moves_step (b := b) fun ticket ht => (hhead ticket ht).1
      obtain ⟨ys, hy⟩ := ih (p := step b p e) (hd.sublist hsub) fun ticket hmem => by
        refine Bool.eq_false_iff.mpr fun hw => ?_
        have hnot := hfree ticket (hsub.subset hmem)
        obtain hc | ⟨i, hi, ht⟩ := hx.waits hw
        · simp [hc] at hnot
        · obtain hc | he := hxs i hi ticket ht
          · simp [hc] at hnot
          · exact (hhead ticket he).2 hmem
      exact ⟨xs ++ ys, hx.trans hy⟩

/-- Every reply there is waits for a call that is held back. Once one of these
is let go, only its own reply can be taken up. -/
theorem isHeld_release (h : Tracked account c) (hrest : Rested b ⟨c, held⟩) {t : Task}
    (ht : t ∈ c.tasks) {id : Nat} (hawaits : t.stage.awaits id = true)
    {reply : Except Failure Json} (hreply : (id, reply) ∈ c.replies)
    {r : Nat × Except Failure Json} (hr : r ∈ c.replies) :
    c.isHeld (held.filter (· != t.ticket)) r.1 = false ↔ r = (id, reply) := by
  constructor
  · intro hnot
    obtain ⟨u, hu, hua, huheld⟩ : ∃ u ∈ c.tasks, u.stage.awaits r.1 = true ∧ u.ticket ∈ held := by
      simpa [Connection.isHeld] using (Connection.advanceBut_eq_none.mp hrest.stuck).1 r hr
    have hticket : u.ticket = t.ticket := by
      by_contra hne
      have hmem : u.ticket ∈ held.filter (· != t.ticket) :=
        List.mem_filter.mpr ⟨huheld, by simpa using hne⟩
      have hheld : c.isHeld (held.filter (· != t.ticket)) r.1 = true := by
        refine List.any_eq_true.mpr ⟨u, hu, ?_⟩
        rw [hua, List.contains_iff_mem.mpr hmem, Bool.and_self]
      simp [hheld] at hnot
    obtain rfl := h.task_unique hu ht hticket
    obtain rfl : r.1 = id := Stage.awaits_unique hua hawaits
    exact Prod.ext rfl (h.reply_unique hr hreply)
  · rintro rfl
    refine Bool.eq_false_iff.mpr fun hheld => ?_
    obtain ⟨u, hu, hua⟩ := List.any_eq_true.mp hheld
    obtain ⟨hua, hmem⟩ : u.stage.awaits id = true ∧ u.ticket ∈ held.filter (· != t.ticket) := by
      simpa only [Bool.and_eq_true, List.contains_iff_mem] using hua
    obtain rfl := h.awaiter_unique ht hu hawaits hua
    simp at hmem

theorem advanceBut_calling (h : Tracked account c) {t : Task} (ht : t ∈ c.tasks) {id : Nat}
    {method : String} (hstage : t.stage = .calling id method) {reply : Except Failure Json}
    (hreply : (id, reply) ∈ c.replies)
    (hfree : ∀ r ∈ c.replies, c.isHeld held r.1 = false ↔ r = (id, reply)) :
    ∃ d, Connection.advanceBut? b held c = some d ∧
      (t.ticket, reply.bind (resultOf method)) ∈ d.finished := by
  have hawaits : t.stage.awaits id = true := by simp [hstage, Stage.awaits]
  unfold Connection.advanceBut?
  split
  next hnone =>
    have hmem : (id, reply) ∈ c.replies.filter fun r => !c.isHeld held r.1 :=
      List.mem_filter.mpr ⟨hreply, by simp [(hfree _ hreply).mpr rfl]⟩
    simp [hnone] at hmem
  next r rest hsome =>
    obtain ⟨hr, hrfree⟩ := List.mem_filter.mp (hsome ▸ List.mem_cons_self)
    obtain rfl := (hfree r hr).mp (by simpa using hrfree)
    simp only [Connection.advance?, List.cons_append]
    cases hfind : c.tasks.find? fun u => u.stage.awaits id with
    | none => exact absurd hawaits (List.find?_eq_none.mp hfind t ht)
    | some u =>
        have hu : u.stage.awaits id = true := by simpa using List.find?_some hfind
        obtain rfl := h.awaiter_unique ht (List.mem_of_find?_eq_some hfind) hawaits hu
        exact ⟨_, rfl, by simp [Connection.resume, hstage, Connection.report]⟩

theorem takes_returns (h : Tracked account c) (hrest : Rested b ⟨c, held⟩) {t : Task}
    (ht : t ∈ c.tasks) {id : Nat} {method : String} (hstage : t.stage = .calling id method)
    {reply : Except Failure Json} (hreply : (id, reply) ∈ c.replies) :
    (t.ticket, reply.bind (resultOf method)) ∈
      (step b ⟨c, held⟩ (.takes t.ticket)).connection.finished := by
  have hawaits : t.stage.awaits id = true := by simp [hstage, Stage.awaits]
  obtain ⟨d, hadvance, hdone⟩ := advanceBut_calling (b := b) h ht hstage hreply
    fun r hr => isHeld_release h hrest ht hawaits hreply hr
  -- the task goes on first, and what it reports stays reported
  have hstep : (step b ⟨c, held⟩ (.takes t.ticket)).connection = c.settleWithin b
      (Connection.advanceBut? b (held.filter (· != t.ticket))) c.settlingBound := rfl
  rw [hstep, Connection.settlingBound, Connection.settleWithin, hrest.drained.drainAll, hadvance]
  exact (Connection.goes_settleWithin Connection.goes_advanceBut _ d).finished_subset hdone

theorem breaks_returns (h : Tracked account c) {t : Task} (ht : t ∈ c.tasks)
    (hheld : t.ticket ∈ held) {id : Nat} {method : String} (hstage : t.stage = .calling id method) (reason : String) :
    (t.ticket, .error (.unavailable (.pipeClosed reason))) ∈
      (step b ⟨c, held⟩ (.breaks t.ticket reason)).connection.finished := by
  have htask : heldTask? t.ticket ⟨c, held⟩ = some t := by
    unfold heldTask?
    cases hfind : c.tasks.find? fun u => u.ticket == t.ticket && held.contains t.ticket with
    | none => simpa [hheld] using List.find?_eq_none.mp hfind t ht
    | some u =>
        have hu : u.ticket = t.ticket ∧ t.ticket ∈ held := by simpa using List.find?_some hfind
        exact congrArg some (h.task_unique (List.mem_of_find?_eq_some hfind) ht hu.1)
  have hbegun : (begin b ⟨c, held⟩ (.breaks t.ticket reason)).connection =
      c.breakOff b t reason := by
    simp only [begin, htask]
    rfl
  refine (goes_settle _).finished_subset ?_
  rw [hbegun]
  simp [Connection.breakOff, hstage, Connection.report]

end Piped

end CodeAtlas.Wire
