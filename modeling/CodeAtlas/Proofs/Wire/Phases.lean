import CodeAtlas.Proofs.Wire.Moves

namespace CodeAtlas.Wire

def Task.id? (t : Task) : Option Nat := t.stage.question?.map Prod.fst

theorem Task.id?_eq_some {t : Task} {id : Nat} :
    t.id? = some id ↔ ∃ method, t.stage.question? = some (id, method) := by
  simp [id?]

namespace Connection

namespace Incident

def askedId? : Incident → Option Nat
  | .asked t _ => t.id?
  | _ => none

def completedId? : Incident → Option Nat
  | .completed t _ => t.id?
  | _ => none

def droppedId? : Incident → Option Nat
  | .dropped t | .broken t _ => t.id?
  | _ => none

def task? : Incident → Option Task
  | .asked t _ | .completed t _ | .dropped t | .broken t _ => some t
  | _ => none

def about? (i : Incident) : Option Nat := i.task?.bind Task.id?

/-- What a request that waits gets for a reply: the message that replies to
it, or the news that no reply will come. -/
def settles? (id : Nat) : Incident → Option (Except Failure Json)
  | .heard message => if isReplyTo id message then some (.ok message) else none
  | .cut => some (.error (.unavailable .exited))
  | _ => none

end Incident

inductive Phase
  | unasked
  | waiting
  | answered (reply : Except Failure Json)
  | completed (reply : Except Failure Json)
  | dropped

namespace Phase

def after (id : Nat) (p : Phase) (i : Incident) : Phase :=
  match p with
  | .unasked => if i.askedId? = some id then .waiting else .unasked
  | .waiting =>
    match i.settles? id with
    | some reply => .answered reply
    | none => if i.droppedId? = some id then .dropped else .waiting
  | .answered reply =>
    if i.completedId? = some id then .completed reply
    else if i.droppedId? = some id then .dropped
    else .answered reply
  | p => p

def afterAll (id : Nat) (p : Phase) (account : List Incident) : Phase := account.foldl (after id) p

def isOpen : Phase → Bool
  | .waiting | .answered _ => true
  | _ => false

end Phase

def phase (id : Nat) (account : List Incident) : Phase := Phase.unasked.afterAll id account

/-- The reply that a request gets that waits when the account begins. -/
def replyIn? (id : Nat) (account : List Incident) : Option (Except Failure Json) :=
  account.findSome? (Incident.settles? id)

variable {id : Nat} {account before later : List Incident} {reply : Except Failure Json}

theorem phase_append (id : Nat) (before later : List Incident) :
    phase id (before ++ later) = (phase id before).afterAll id later := List.foldl_append

theorem phase_concat (id : Nat) (account : List Incident) (i : Incident) :
    phase id (account ++ [i]) = (phase id account).after id i := phase_append ..

theorem Incident.not_about {i : Incident} (h : i.about? ≠ some id) :
    i.askedId? ≠ some id ∧ i.completedId? ≠ some id ∧ i.droppedId? ≠ some id := by
  cases i with
  | asked t params => exact ⟨h, nofun, nofun⟩
  | completed t outcome => exact ⟨nofun, h, nofun⟩
  | dropped | broken => exact ⟨nofun, nofun, h⟩
  | _ => exact ⟨nofun, nofun, nofun⟩

theorem Phase.after_other {p : Phase} {i : Incident} (habout : i.about? ≠ some id)
    (hsettle : p = .waiting → i.settles? id = none) : p.after id i = p := by
  obtain ⟨hasked, hcompleted, hdropped⟩ := Incident.not_about habout
  cases p with
  | unasked => rw [after, if_neg hasked]
  | waiting => simp only [after, hsettle rfl, if_neg hdropped]
  | answered reply => rw [after, if_neg hcompleted, if_neg hdropped]
  | completed | dropped => rfl

theorem phase_append_other (habout : ∀ i ∈ later, i.about? ≠ some id)
    (hsettle : phase id account = .waiting → ∀ i ∈ later, i.settles? id = none) :
    phase id (account ++ later) = phase id account := by
  rw [phase_append]
  generalize phase id account = p at hsettle
  induction later with
  | nil => rfl
  | cons i later ih =>
      obtain ⟨hi, hlater⟩ := List.forall_mem_cons.mp habout
      have hsame : p.after id i = p := Phase.after_other hi fun hp => hsettle hp i List.mem_cons_self
      have hrest := ih hlater fun hp j hj => hsettle hp j (List.mem_cons_of_mem _ hj)
      simpa only [Phase.afterAll, List.foldl_cons, hsame] using hrest

theorem afterAll_completed (id : Nat) (reply : Except Failure Json) (later : List Incident) :
    (Phase.completed reply).afterAll id later = .completed reply := by
  induction later with
  | nil => rfl
  | cons i later ih => exact ih

theorem afterAll_dropped (id : Nat) (later : List Incident) :
    Phase.dropped.afterAll id later = .dropped := by
  induction later with
  | nil => rfl
  | cons i later ih => exact ih

theorem afterAll_answered (id : Nat) (reply : Except Failure Json) (later : List Incident) :
    (Phase.answered reply).afterAll id later = .answered reply ∨
    (Phase.answered reply).afterAll id later = .completed reply ∧
      some id ∈ later.map Incident.completedId? ∨
    (Phase.answered reply).afterAll id later = .dropped ∧ some id ∈ later.map Incident.droppedId? := by
  induction later with
  | nil => exact .inl rfl
  | cons i later ih =>
      simp only [Phase.afterAll, List.foldl_cons, Phase.after, List.map_cons, List.mem_cons] at ih ⊢
      split
      next hc => exact .inr (.inl ⟨afterAll_completed .., .inl hc.symm⟩)
      next =>
        split
        next hd => exact .inr (.inr ⟨afterAll_dropped .., .inl hd.symm⟩)
        next => exact ih.imp_right (.imp (.imp_right .inr) (.imp_right .inr))

theorem afterAll_waiting (id : Nat) (later : List Incident) :
    (Phase.waiting.afterAll id later = .waiting ∧ replyIn? id later = none) ∨
    (∃ reply, replyIn? id later = some reply ∧
      (Phase.waiting.afterAll id later = .answered reply ∨
        Phase.waiting.afterAll id later = .completed reply ∧
          some id ∈ later.map Incident.completedId?)) ∨
    Phase.waiting.afterAll id later = .dropped ∧ some id ∈ later.map Incident.droppedId? := by
  induction later with
  | nil => exact .inl ⟨rfl, rfl⟩
  | cons i later ih =>
      -- the first incident that settles it is where its reply stands from then on
      simp only [Phase.afterAll, List.foldl_cons, Phase.after, replyIn?, List.findSome?_cons,
        List.map_cons, List.mem_cons] at ih ⊢
      cases hs : i.settles? id with
      | some reply =>
          obtain h | ⟨h, hc⟩ | ⟨h, hd⟩ := afterAll_answered id reply later
          · exact .inr (.inl ⟨reply, rfl, .inl h⟩)
          · exact .inr (.inl ⟨reply, rfl, .inr ⟨h, .inr hc⟩⟩)
          · exact .inr (.inr ⟨h, .inr hd⟩)
      | none =>
          simp only
          split
          next hd => exact .inr (.inr ⟨afterAll_dropped .., .inl hd.symm⟩)
          next =>
            obtain h | ⟨reply, hreply, h | ⟨h, hc⟩⟩ | ⟨h, hd⟩ := ih
            · exact .inl h
            · exact .inr (.inl ⟨reply, hreply, .inl h⟩)
            · exact .inr (.inl ⟨reply, hreply, .inr ⟨h, .inr hc⟩⟩)
            · exact .inr (.inr ⟨h, .inr hd⟩)

theorem phase_eq_unasked : phase id account = .unasked ↔ id ∉ account.filterMap Incident.askedId? := by
  unfold phase
  induction account with
  | nil => simp [Phase.afterAll]
  | cons i account ih =>
      rw [Phase.afterAll, List.foldl_cons, Phase.after]
      split
      next h =>
        have hne : Phase.waiting.afterAll id account ≠ .unasked := by
          obtain ⟨h, -⟩ | ⟨_, -, h | ⟨h, -⟩⟩ | ⟨h, -⟩ := afterAll_waiting id account <;> simp [h]
        rw [Phase.afterAll] at hne
        simpa [List.mem_filterMap, h] using hne
      next h =>
        refine ih.trans (not_congr ?_)
        simp [List.mem_filterMap, h]

theorem phase_asked {t : Task} {params : Json} (ht : t.id? = some id)
    (hnew : id ∉ before.filterMap Incident.askedId?) :
    phase id (before ++ .asked t params :: later) = Phase.waiting.afterAll id later := by
  have hasked : (Incident.asked t params).askedId? = some id := ht
  rw [phase_append, phase_eq_unasked.mpr hnew, Phase.afterAll, List.foldl_cons, Phase.after,
    if_pos hasked]
  rfl

/-- Each completion takes up the reply that its own request got. -/
def Lawful (account : List Incident) : Prop :=
  ∀ before t outcome later, account = before ++ .completed t outcome :: later →
    ∃ params id method reply, .asked t params ∈ before ∧ t.stage.question? = some (id, method) ∧
      phase id before = .answered reply ∧ outcome = reply.bind (resultOf method)

theorem Lawful.append (h : Lawful account)
    (hnew : ∀ pre t outcome post, later = pre ++ .completed t outcome :: post →
      ∃ params id method reply, .asked t params ∈ account ++ pre ∧
        t.stage.question? = some (id, method) ∧ phase id (account ++ pre) = .answered reply ∧
        outcome = reply.bind (resultOf method)) : Lawful (account ++ later) := by
  intro before t outcome rest heq
  obtain ⟨middle, rfl, hlater⟩ | ⟨middle, rfl, hrest⟩ := List.append_eq_append_iff.mp heq
  · exact hnew middle t outcome rest hlater
  · obtain ⟨rfl, hlater⟩ | ⟨tail, rfl, -⟩ := List.cons_eq_append_iff.mp hrest
    · simpa using hnew [] t outcome rest hlater
    · exact h before t outcome tail rfl

theorem Lawful.append_other (h : Lawful account)
    (hnone : ∀ t outcome, .completed t outcome ∉ later) : Lawful (account ++ later) :=
  h.append fun pre t outcome post heq => absurd (by simp [heq]) (hnone t outcome)

theorem Lawful.phase_completed (h : Lawful account) {t : Task} {outcome : Except Failure Json}
    (heq : account = before ++ .completed t outcome :: later) (ht : t.id? = some id)
    (between : List Incident) :
    ∃ reply, phase id before = .answered reply ∧
      phase id (before ++ .completed t outcome :: between) = .completed reply := by
  obtain ⟨params, id', method, reply, -, hq, hphase, -⟩ := h before t outcome later heq
  obtain rfl : id' = id := by simpa [Task.id?, hq] using ht
  have hdone : (Incident.completed t outcome).completedId? = some id' := ht
  refine ⟨reply, hphase, ?_⟩
  rw [phase_append, hphase, Phase.afterAll, List.foldl_cons, Phase.after, if_pos hdone]
  exact afterAll_completed ..

theorem Lawful.once (h : Lawful account) {t : Task} {outcome : Except Failure Json}
    (heq : account = before ++ .completed t outcome :: later) (ht : t.id? = some id) :
    ∀ i ∈ before ++ later, i.completedId? ≠ some id := by
  intro i hi hcompleted
  obtain ⟨u, result, rfl⟩ : ∃ u result, i = .completed u result := by
    cases i with
    | completed u result => exact ⟨u, result, rfl⟩
    | _ => simp [Incident.completedId?] at hcompleted
  -- whichever of the two came first, the other found the request completed
  obtain hi | hi := List.mem_append.mp hi
  · obtain ⟨first, between, rfl⟩ := List.append_of_mem hi
    obtain ⟨reply, hphase, -⟩ := h.phase_completed heq ht []
    obtain ⟨reply', -, hdone⟩ := h.phase_completed (by simpa using heq) hcompleted between
    simp [hdone] at hphase
  · obtain ⟨between, last, rfl⟩ := List.append_of_mem hi
    obtain ⟨reply, -, hdone⟩ := h.phase_completed heq ht between
    have heq' : account =
        (before ++ .completed t outcome :: between) ++ .completed u result :: last := by
      simpa using heq
    obtain ⟨reply', hphase, -⟩ := h.phase_completed heq' hcompleted []
    simp [hdone] at hphase

end Connection

end CodeAtlas.Wire
