import CodeAtlas.Proofs.Wire.Lives

namespace CodeAtlas.Wire

def Stage.isGreeting : Stage → Bool
  | .initializing .. => true
  | _ => false

def Stage.isFarewell : Stage → Bool
  | .shuttingDown .. => true
  | _ => false

namespace Connection

/-- How far the exchange with a process has come. -/
inductive Standing
  | unmet
  | greeting (t : Task)
  | greeted
  | serving
  | leaving (t : Task)
  | excused
  | done

/-- Nothing goes out of its own accord, and no reply is taken up. -/
def Incident.isAside : Incident → Bool
  | .heard _ | .answered _ | .unanswered .. | .cut | .leaving _ | .left _ => true
  | _ => false

inductive Life : List Incident → Standing → Prop
  | born : Life [] .unmet
  | bides {life i s} (h : Life life s) (hi : i.isAside = true) : Life (life ++ [i]) s
  | greets {life ticket id value} (h : Life life .unmet) (params : Json) :
      Life (life ++ [.asked ⟨ticket, .initializing id value⟩ params])
        (.greeting ⟨ticket, .initializing id value⟩)
  | accepted {life t} (h : Life life (.greeting t)) (result : Json) :
      Life (life ++ [.completed t (.ok result)]) .greeted
  | rejected {life t} (h : Life life (.greeting t)) (e : Failure) :
      Life (life ++ [.completed t (.error e)]) .done
  | announces {life} (h : Life life .greeted) :
      Life (life ++ [.told "initialized" (.object [])]) .serving
  | calls {life ticket id method} (h : Life life .serving) (params : Json) :
      Life (life ++ [.asked ⟨ticket, .calling id method⟩ params]) .serving
  | replied {life ticket id method} (h : Life life .serving) (outcome : Except Failure Json) :
      Life (life ++ [.completed ⟨ticket, .calling id method⟩ outcome]) .serving
  | asksToLeave {life ticket id process ending} (h : Life life .serving) :
      Life (life ++ [.asked ⟨ticket, .shuttingDown id process ending⟩ .null])
        (.leaving ⟨ticket, .shuttingDown id process ending⟩)
  | agreed {life t} (h : Life life (.leaving t)) (result : Json) :
      Life (life ++ [.completed t (.ok result)]) .excused
  | refused {life t} (h : Life life (.leaving t)) (e : Failure) :
      Life (life ++ [.completed t (.error e)]) .done
  | overdue {life t} (h : Life life (.leaving t)) : Life (life ++ [.dropped t]) .done
  | exits {life} (h : Life life .excused) : Life (life ++ [.told "exit" .null]) .done

variable {account life : List Incident} {i : Incident} {c : Connection}

def isOwn (message : Json) : Bool := (message.get? "method").isSome

/-- What the connection says of its own accord. -/
def words (life : List Incident) : List Json := (life.filterMap Incident.written?).filter isOwn

def Incident.called? : Incident → Option Json
  | .asked ⟨_, .calling id method⟩ params => some (request id method params)
  | _ => none

def script (first last : Nat) (params : Json) (calls : List Json) : List Json :=
  request first "initialize" params :: notification "initialized" (.object []) ::
    (calls ++ [request last "shutdown" .null, notification "exit" .null])

def Standing.Said (first last : Nat) (params : Json) (calls said : List Json) : Standing → Prop
  | .unmet => said = [] ∧ calls = []
  | .greeting _ | .greeted => said = [request first "initialize" params] ∧ calls = []
  | .serving => said = request first "initialize" params ::
      notification "initialized" (.object []) :: calls
  | .leaving _ | .excused => said = request first "initialize" params ::
      notification "initialized" (.object []) :: (calls ++ [request last "shutdown" .null])
  | .done => said <+: script first last params calls

theorem Standing.Said.prefix {first last : Nat} {params : Json} {calls said : List Json}
    {s : Standing} (h : s.Said first last params calls said) :
    said <+: script first last params calls := by
  cases s with
  | unmet => exact h.1 ▸ List.nil_prefix
  | greeting | greeted => exact h.1 ▸ ⟨_, rfl⟩
  | serving => exact ⟨[_, _], by simp only [Said] at h; rw [h]; rfl⟩
  | leaving | excused => exact ⟨[notification "exit" .null], by simp only [Said] at h; simp [h, script]⟩
  | done => exact h

def Answered (kind : Stage → Bool) (life : List Incident) : Prop :=
  ∃ before t params result after, life = before ++ .completed t (.ok result) :: after ∧
    kind t.stage = true ∧ .asked t params ∈ before

/-- Before a process is told something, a request of some kind got a
result. -/
def Heralded (kind : Stage → Bool) (method : String) (life : List Incident) : Prop :=
  ∀ before params after, life = before ++ .told method params :: after → Answered kind before

theorem Answered.concat {kind : Stage → Bool} (h : Answered kind life) (i : Incident) :
    Answered kind (life ++ [i]) := by
  obtain ⟨before, t, params, result, after, rfl, hkind, hasked⟩ := h
  exact ⟨before, t, params, result, after ++ [i], by simp, hkind, hasked⟩

theorem Heralded.concat {kind : Stage → Bool} {method : String} (h : Heralded kind method life)
    (hi : ∀ params, i = .told method params → Answered kind life) :
    Heralded kind method (life ++ [i]) := by
  intro before params after heq
  obtain rfl | ⟨after, last, rfl⟩ := List.eq_nil_or_concat after
  · obtain ⟨rfl, hlast⟩ := List.append_inj' heq rfl
    exact hi params (List.singleton_inj.mp hlast)
  · have heq : life ++ [i] = (before ++ .told method params :: after) ++ [last] := by simpa using heq
    exact h before params after (List.append_inj' heq rfl).1

def Standing.Due (life : List Incident) : Standing → Prop
  | .greeting t => t.stage.isGreeting = true ∧ ∃ params, .asked t params ∈ life
  | .greeted => Answered Stage.isGreeting life
  | .leaving t => t.stage.isFarewell = true ∧ ∃ params, .asked t params ∈ life
  | .excused => Answered Stage.isFarewell life
  | _ => True

theorem Standing.Due.concat {s : Standing} (h : s.Due life) (i : Incident) : s.Due (life ++ [i]) := by
  cases s with
  | greeting | leaving =>
      obtain ⟨hkind, params, hasked⟩ := h
      exact ⟨hkind, params, List.mem_append_left _ hasked⟩
  | greeted | excused => exact Answered.concat h i
  | unmet | serving | done => trivial

theorem answered_concat {kind : Stage → Bool} {t : Task} {params : Json} (hkind : kind t.stage = true)
    (hasked : .asked t params ∈ life) (result : Json) :
    Answered kind (life ++ [.completed t (.ok result)]) :=
  ⟨life, t, params, result, [], rfl, hkind, hasked⟩

/-- What a life says of the order of its words. -/
structure Course (s : Standing) (life : List Incident) : Prop where
  said : ∃ first last params, s.Said first last params (life.filterMap Incident.called?) (words life)
  initialized : Heralded Stage.isGreeting "initialized" life
  exit : Heralded Stage.isFarewell "exit" life
  due : s.Due life

theorem words_concat (life : List Incident) (i : Incident) :
    words (life ++ [i]) = words life ++ i.written?.toList.filter isOwn := by
  cases h : i.written? <;> simp [words, h]

theorem called_concat (life : List Incident) (i : Incident) :
    (life ++ [i]).filterMap Incident.called? =
      life.filterMap Incident.called? ++ i.called?.toList := by
  cases h : i.called? <;> simp [h]

theorem Incident.isAside_silent (h : i.isAside = true) :
    i.written?.toList.filter isOwn = [] ∧ i.called? = none ∧ ∀ method params, i ≠ .told method params := by
  cases i <;> simp_all [isAside, written?, called?, isOwn, emptyAnswer, Json.get?, List.lookup]

@[simp] theorem isOwn_request (id : Nat) (method : String) (params : Json) :
    isOwn (request id method params) = true := rfl

@[simp] theorem isOwn_notification (method : String) (params : Json) :
    isOwn (notification method params) = true := rfl

theorem Course.concat {s s' : Standing} (h : Course s life)
    (hsaid : ∀ {first last params calls said}, s.Said first last params calls said →
      ∃ first last params, s'.Said first last params (calls ++ i.called?.toList)
        (said ++ i.written?.toList.filter isOwn))
    (hinitialized : ∀ params, i = .told "initialized" params → Answered Stage.isGreeting life)
    (hexit : ∀ params, i = .told "exit" params → Answered Stage.isFarewell life)
    (hdue : s'.Due (life ++ [i])) : Course s' (life ++ [i]) where
  said := by
    obtain ⟨first, last, params, hs⟩ := h.said
    rw [words_concat, called_concat]
    exact hsaid hs
  initialized := h.initialized.concat hinitialized
  exit := h.exit.concat hexit
  due := hdue

theorem Course.silent {s s' : Standing} (h : Course s life)
    (hwritten : i.written?.toList.filter isOwn = []) (hcalled : i.called? = none)
    (htold : ∀ method params, i ≠ .told method params)
    (hsaid : ∀ {first last params calls said}, s.Said first last params calls said →
      s'.Said first last params calls said) (hdue : s'.Due (life ++ [i])) : Course s' (life ++ [i]) := by
  refine h.concat (fun {first last params calls said} hs => ⟨first, last, params, ?_⟩)
    (fun params heq => absurd heq (htold _ params)) (fun params heq => absurd heq (htold _ params)) hdue
  rw [hwritten, hcalled, List.append_nil, Option.toList_none, List.append_nil]
  exact hsaid hs

theorem Life.course {s : Standing} (h : Life life s) : Course s life := by
  induction h with
  | born => exact ⟨⟨0, 0, .null, rfl, rfl⟩, by simp [Heralded], by simp [Heralded], trivial⟩
  | bides h hi ih =>
      obtain ⟨hwords, hcalled, htold⟩ := Incident.isAside_silent hi
      exact ih.silent hwords hcalled htold (fun hs => hs) (ih.due.concat _)
  | @greets life ticket id value h params ih =>
      refine ih.concat (fun {_ last _ _ _} hs => ⟨id, last, params, ?_⟩) (by simp) (by simp)
        ⟨rfl, params, by simp⟩
      obtain ⟨rfl, rfl⟩ := hs
      exact ⟨rfl, rfl⟩
  | accepted h result ih =>
      obtain ⟨hkind, params, hasked⟩ := ih.due
      exact ih.silent rfl rfl (by simp) (fun hs => hs) (answered_concat hkind hasked result)
  | rejected h e ih => exact ih.silent rfl rfl (by simp) (fun hs => hs.prefix) trivial
  | announces h ih =>
      refine ih.concat (fun {first last params _ _} hs => ⟨first, last, params, ?_⟩)
        (fun _ _ => ih.due) (by simp) trivial
      obtain ⟨rfl, rfl⟩ := hs
      rfl
  | calls h params ih =>
      refine ih.concat (fun {first last params _ _} hs => ⟨first, last, params, ?_⟩) (by simp) (by simp) trivial
      obtain rfl := hs
      rfl
  | replied h outcome ih => exact ih.silent rfl rfl (by simp) (fun hs => hs) trivial
  | @asksToLeave life ticket id process ending h ih =>
      refine ih.concat (fun {first _ params calls _} hs => ⟨first, id, params, ?_⟩) (by simp) (by simp)
        ⟨rfl, .null, by simp⟩
      obtain rfl := hs
      simp [Standing.Said, Incident.written?, Incident.called?, Stage.question?]
  | agreed h result ih =>
      obtain ⟨hkind, params, hasked⟩ := ih.due
      exact ih.silent rfl rfl (by simp) (fun hs => hs) (answered_concat hkind hasked result)
  | refused h e ih => exact ih.silent rfl rfl (by simp) (fun hs => hs.prefix) trivial
  | overdue h ih => exact ih.silent rfl rfl (by simp) (fun hs => hs.prefix) trivial
  | exits h ih =>
      refine ih.concat (fun {first last params calls _} hs => ⟨first, last, params, ?_⟩) (by simp)
        (fun _ _ => ih.due) trivial
      obtain rfl := hs
      simp [Standing.Said, script, Incident.written?, Incident.called?, List.filter]

/-- A request of some kind was answered without an error, by the first
message that replies to it and before it was known that none would come. -/
def Granted (kind : Stage → Bool) (life : List Incident) : Prop :=
  ∃ before t params after id message, life = before ++ .asked t params :: after ∧
    kind t.stage = true ∧ t.id? = some id ∧ replyIn? id after = some (.ok message) ∧
    ((message.get? "error").getD .null).truthy = false

theorem resultOf_ok {method : String} {message result : Json}
    (h : resultOf method message = .ok result) :
    ((message.get? "error").getD .null).truthy = false := by
  cases message with
  | object fields =>
      have hfield : (Json.object fields).field "error" = .ok (fields.lookup "error") := rfl
      refine Bool.eq_false_iff.mpr fun htruthy => ?_
      have htruthy : ((fields.lookup "error").getD .null).truthy = true := htruthy
      rw [resultOf, hfield] at h
      simp only [bind, Except.bind, htruthy, if_true, throw, throwThe, MonadExceptOf.throw] at h
      repeat' split at h
      all_goals cases h
  | _ => rfl

theorem Answered.granted {kind : Stage → Bool} (h : Answered kind life) (ht : Tracked account c)
    (hlife : life <:+: account) : Granted kind life := by
  obtain ⟨before, t, params, result, after, rfl, hkind, hasked⟩ := h
  obtain ⟨first, between, rfl⟩ := List.append_of_mem hasked
  obtain ⟨older, newer, heq⟩ := hlife
  have hdone : account = (older ++ (first ++ .asked t params :: between)) ++
      .completed t (.ok result) :: (after ++ newer) := by simp [← heq]
  have hbegun : account = (older ++ first) ++ .asked t params ::
      (between ++ .completed t (.ok result) :: (after ++ newer)) := by simp [← heq]
  obtain ⟨-, id, method, reply, -, hq, hphase, hresult⟩ := ht.lawful _ _ _ _ hdone
  have hid : t.id? = some id := Task.id?_eq_some.mpr ⟨method, hq⟩
  -- the reply that was taken up is the first one since the request
  have hwaited : phase id (older ++ (first ++ .asked t params :: between)) =
      Phase.waiting.afterAll id between := by
    rw [← List.append_assoc]
    exact phase_asked hid (ht.asked_new hbegun hid)
  rw [hwaited] at hphase
  have hreply : replyIn? id between = some reply := by
    obtain ⟨hw, -⟩ | ⟨reply', hr, ha | ⟨hc, -⟩⟩ | ⟨hd, -⟩ := afterAll_waiting id between
    · simp [hw] at hphase
    · obtain rfl : reply' = reply := Phase.answered.inj (ha.symm.trans hphase)
      exact hr
    · simp [hc] at hphase
    · simp [hd] at hphase
  cases reply with
  | error e => exact nomatch hresult
  | ok message =>
      refine ⟨first, t, params, between ++ .completed t (.ok result) :: after, id, message, by simp,
        hkind, hid, ?_, resultOf_ok hresult.symm⟩
      rw [replyIn?, List.findSome?_append]
      simp only [replyIn?] at hreply
      simp [hreply]

/-- What goes out to one process: `initialize`; `initialized`, when that was
answered without an error; the calls; at most one `shutdown`; `exit`, when
that was answered without an error; and nothing more. -/
structure Orderly (life : List Incident) : Prop where
  order : ∃ first last params,
    words life <+: script first last params (life.filterMap Incident.called?)
  initialized : ∀ before params after, life = before ++ .told "initialized" params :: after →
    Granted Stage.isGreeting before
  exit : ∀ before params after, life = before ++ .told "exit" params :: after →
    Granted Stage.isFarewell before

theorem Life.orderly {s : Standing} (h : Life life s) (ht : Tracked account c)
    (hlife : life <:+: account) : Orderly life := by
  obtain ⟨⟨first, last, params, hsaid⟩, hinitialized, hexit, -⟩ := h.course
  refine ⟨⟨first, last, params, hsaid.prefix⟩, ?_, ?_⟩
  all_goals
    intro before params after heq
    have hbefore : before <:+: account := (heq ▸ List.prefix_append ..).isInfix.trans hlife
  · exact (hinitialized before params after heq).granted ht hbefore
  · exact (hexit before params after heq).granted ht hbefore

end Connection

end CodeAtlas.Wire
