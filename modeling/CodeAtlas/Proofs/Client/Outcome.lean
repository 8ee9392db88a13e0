import CodeAtlas.Client

namespace CodeAtlas.Client

variable {σ α β γ : Type}

def outcome (x : Client σ α) (s : Session σ) : Except Failure α × Session σ := x.run.run s

@[simp]
theorem outcome_pure (a : α) (s : Session σ) : outcome (pure a : Client σ α) s = (.ok a, s) := rfl

@[simp]
theorem outcome_throw (e : Failure) (s : Session σ) :
    outcome (throw e : Client σ α) s = (.error e, s) := rfl

@[simp]
theorem outcome_get (s : Session σ) : outcome (get : Client σ (Session σ)) s = (.ok s, s) := rfl

@[simp]
theorem outcome_modify (f : Session σ → Session σ) (s : Session σ) :
    outcome (modify f : Client σ Unit) s = (.ok (), f s) := rfl

theorem outcome_bind (x : Client σ α) (f : α → Client σ β) (s : Session σ) :
    outcome (x >>= f) s = match outcome x s with
      | (.ok a, t) => outcome (f a) t
      | (.error e, t) => (.error e, t) := by
  simp only [outcome, ExceptT.run_bind]
  rcases h : x.run.run s with ⟨r, t⟩
  cases r <;> simp [h] <;> rfl

theorem outcome_tryCatch (x : Client σ α) (f : Failure → Client σ α) (s : Session σ) :
    outcome (tryCatch x f) s = match outcome x s with
      | (.ok a, t) => (.ok a, t)
      | (.error e, t) => outcome (f e) t := by
  simp only [outcome, ExceptT.run_tryCatch, StateT.run_bind]
  rcases h : x.run.run s with ⟨r, t⟩
  cases r <;> rfl

theorem outcome_bind_ok {x : Client σ α} {f : α → Client σ β} {s u : Session σ} {b : β} :
    outcome (x >>= f) s = (.ok b, u) ↔
      ∃ a t, outcome x s = (.ok a, t) ∧ outcome (f a) t = (.ok b, u) := by
  rw [outcome_bind]
  rcases outcome x s with ⟨_ | a, t⟩ <;> simp [and_assoc]

theorem outcome_bind_congr {x y : Client σ α} {f g : α → Client σ β} {s : Session σ}
    (h : outcome x s = outcome y s)
    (hf : ∀ a t, outcome y s = (.ok a, t) → outcome (f a) t = outcome (g a) t) :
    outcome (x >>= f) s = outcome (y >>= g) s := by
  rw [outcome_bind, outcome_bind, h]
  rcases hy : outcome y s with ⟨_ | a, t⟩
  · rfl
  · exact hf a t hy

theorem outcome_bind_error {x : Client σ α} {f : α → Client σ β} {s u : Session σ} {e : Failure} :
    outcome (x >>= f) s = (.error e, u) ↔
      outcome x s = (.error e, u) ∨
        ∃ a t, outcome x s = (.ok a, t) ∧ outcome (f a) t = (.error e, u) := by
  rw [outcome_bind]
  rcases outcome x s with ⟨_ | a, t⟩ <;> simp [and_assoc]

theorem exists_result {x : Client σ α} {s : Session σ} {view : α → β} {b : β}
    (h : (outcome x s).1.toOption.map view = some b) :
    ∃ a t, outcome x s = (.ok a, t) ∧ view a = b := by
  rcases hx : outcome x s with ⟨e | a, t⟩
  · simp [hx, Except.toOption] at h
  · refine ⟨a, t, rfl, ?_⟩
    simpa [hx, Except.toOption] using h

theorem outcome_map (f : α → β) (x : Client σ α) (s : Session σ) :
    outcome (f <$> x) s = ((outcome x s).1.map f, (outcome x s).2) := by
  rw [← bind_pure_comp, outcome_bind]
  rcases outcome x s with ⟨e | a, t⟩ <;> rfl

@[simp]
theorem outcome_attempt (r : Except Failure α) (s : Session σ) :
    outcome (attempt r : Client σ α) s = (r, s) := by
  cases r <;> rfl

@[simp]
theorem outcome_note (level : Level) (speaker : Speaker) (message : String) (s : Session σ) :
    outcome (note level speaker message) s =
      (.ok (), { s with log := s.log ++ [⟨level, speaker, message⟩] }) := rfl

@[simp]
theorem outcome_record (method : String) (params : Json) (s : Session σ) :
    outcome (record method params) s =
      (.ok (), { s with traffic := s.traffic ++ [⟨method, params⟩] }) := rfl

@[simp]
theorem outcome_settle (turn : Turn σ α) (s : Session σ) :
    outcome (settle turn) s =
      (turn.result, { s with world := turn.world, log := s.log ++ turn.notes }) := by
  rcases turn with ⟨_ | _, _, _⟩ <;> rfl

variable (w : World σ)

theorem outcome_connected (s : Session σ) :
    outcome (connected w) s =
      (if w.isRunning s.world then .ok () else .error (.unavailable .notConnected), s) := by
  simp only [connected, outcome_bind, outcome_get]
  cases w.isRunning s.world <;> rfl

/-- The session after a request was sent and answered. -/
def asked (method : String) (params : Json) (s : Session σ) : Session σ :=
  { s with
    world := (w.request method params s.world).world
    traffic := s.traffic ++ [⟨method, params⟩]
    log := s.log ++ (w.request method params s.world).notes }

theorem outcome_exchange (method : String) (params : Json) (s : Session σ) :
    outcome (exchange w method params) s =
      if w.isRunning s.world then
        ((w.request method params s.world).result, asked w method params s)
      else (.error (.unavailable .notConnected), s) := by
  simp only [exchange, outcome_bind, outcome_connected]
  cases w.isRunning s.world <;> simp [asked]

/-- A query that gives a reply sent its request to a running server, and did
nothing else to what the client remembers. An error reply is read as null. -/
theorem query_ok {method : String} {params reply : Json} {s t : Session σ}
    (h : outcome (query w method params) s = (.ok reply, t)) :
    t.traffic = s.traffic ++ [⟨method, params⟩] ∧ t.texts = s.texts ∧
      ((w.request method params s.world).result = .ok reply ∨ reply = .null) := by
  rw [query, outcome_tryCatch, outcome_exchange] at h
  cases hr : w.isRunning s.world with
  | false => simp [hr] at h
  | true =>
      simp only [hr, if_true] at h
      cases hq : (w.request method params s.world).result with
      | ok r =>
          simp only [hq, Prod.mk.injEq] at h
          obtain ⟨h, rfl⟩ := h
          exact ⟨rfl, rfl, .inl h⟩
      | error e =>
          rw [hq] at h
          cases e
          case rejected =>
            simp only [outcome_bind, outcome_note, outcome_pure, Prod.mk.injEq,
              Except.ok.injEq] at h
            obtain ⟨rfl, rfl⟩ := h
            exact ⟨rfl, rfl, .inr rfl⟩
          all_goals simp at h

theorem mem_of_mapM {ε : Type} {f : α → Except ε β} {xs : List α} {ys : List β}
    (h : xs.mapM f = .ok ys) : ∀ y ∈ ys, ∃ x ∈ xs, f x = .ok y := by
  induction xs generalizing ys with
  | nil =>
      obtain rfl : [] = ys := Except.ok.inj h
      simp
  | cons x xs ih =>
      rw [List.mapM_cons] at h
      cases hx : f x with
      | error e => simp [hx, bind, Except.bind] at h
      | ok y =>
          cases hxs : xs.mapM f with
          | error e => simp [hx, hxs, bind, Except.bind] at h
          | ok rest =>
              obtain rfl : y :: rest = ys := by
                simpa [hx, hxs, bind, Except.bind, pure, Except.pure] using h
              intro z hz
              obtain rfl | hz := List.mem_cons.mp hz
              · exact ⟨x, List.mem_cons_self, hx⟩
              · obtain ⟨x', hx', hf⟩ := ih hxs z hz
                exact ⟨x', List.mem_cons_of_mem _ hx', hf⟩

theorem mapM_map_ok {γ ε : Type} {f : α → β} {read : β → Except ε γ} {g : α → γ} {xs : List α}
    (h : ∀ a ∈ xs, read (f a) = .ok (g a)) : (xs.map f).mapM read = .ok (xs.map g) := by
  induction xs with
  | nil => rfl
  | cons first rest ih =>
      obtain ⟨hfirst, hrest⟩ := List.forall_mem_cons.mp h
      rw [List.map_cons, List.mapM_cons, hfirst, ih hrest]
      rfl

theorem objects_list {f : α → Json} {xs : List α} (h : ∀ a ∈ xs, (f a).isObject = true) :
    objects (.list (xs.map f)) = xs.map f := by
  rw [objects, entries, List.filter_eq_self, List.forall_mem_map]
  exact h

/-- A server that answers all requests alike, and a disk of empty files. -/
def answering (reply : Json) : World Unit where
  isRunning _ := true
  capabilities _ := .object []
  request _ _ _ := ⟨.ok reply, [], ()⟩
  notify _ _ _ := ⟨.ok (), [], ()⟩
  readFile _ _ := (.ok [], ())
  absolute := .ok

end CodeAtlas.Client
