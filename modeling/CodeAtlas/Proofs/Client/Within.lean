import CodeAtlas.Proofs.Client.Steps

namespace CodeAtlas.Client

variable {σ α β : Type} {allowed : List Sent → Sent → Prop} {s t : Session σ}

/-- A computation takes allowed steps from a session, to a result or to a failure. -/
def Within (allowed : List Sent → Sent → Prop) (x : Client σ α) (s : Session σ) : Prop :=
  Steps allowed s (outcome x s).2

theorem Within.steps {x : Client σ α} (h : Within allowed x s) {r : Except Failure α}
    (hx : outcome x s = (r, t)) : Steps allowed s t := by
  rwa [Within, hx] at h

theorem within_of_step {x : Client σ α} (h : Step allowed s (outcome x s).2) :
    Within allowed x s := .single h

theorem within_pure (a : α) (s : Session σ) : Within allowed (pure a : Client σ α) s := .refl

theorem within_throw (e : Failure) (s : Session σ) :
    Within allowed (throw e : Client σ α) s := .refl

theorem within_attempt (r : Except Failure α) (s : Session σ) :
    Within allowed (attempt r : Client σ α) s := by
  rw [Within, outcome_attempt]
  exact .refl

theorem within_note (level : Level) (speaker : Speaker) (message : String) (s : Session σ) :
    Within allowed (note level speaker message) s := within_of_step (.rest rfl rfl)

theorem Within.bind {x : Client σ α} {f : α → Client σ β} (hx : Within allowed x s)
    (hf : ∀ a t, outcome x s = (.ok a, t) → Within allowed (f a) t) :
    Within allowed (x >>= f) s := by
  unfold Within at hx ⊢
  rw [outcome_bind]
  rcases h : outcome x s with ⟨e | a, t⟩
  · rwa [h] at hx
  · rw [h] at hx
    exact hx.trans (hf a t h)

theorem Within.tryCatch {x : Client σ α} {f : Failure → Client σ α} (hx : Within allowed x s)
    (hf : ∀ e t, outcome x s = (.error e, t) → Within allowed (f e) t) :
    Within allowed (tryCatch x f) s := by
  unfold Within at hx ⊢
  rw [outcome_tryCatch]
  rcases h : outcome x s with ⟨e | a, t⟩
  · rw [h] at hx
    exact hx.trans (hf e t h)
  · rwa [h] at hx

theorem within_foldlM {I : Session σ → Prop} (hI : ∀ s t, Steps allowed s t → I s → I t)
    {f : β → α → Client σ β} {xs : List α}
    (hf : ∀ x ∈ xs, ∀ b s, I s → Within allowed (f b x) s) {b : β} (hs : I s) :
    Within allowed (xs.foldlM f b) s := by
  induction xs generalizing b s with
  | nil => exact within_pure b s
  | cons x rest ih =>
      obtain ⟨hx, hrest⟩ := List.forall_mem_cons.mp hf
      rw [List.foldlM_cons]
      exact (hx b s hs).bind fun c t h => ih hrest (hI s t ((hx b s hs).steps h) hs)

variable (w : World σ)

theorem session_bind {x : Client σ α} {f : α → Client σ β} (hx : (outcome x s).2 = s)
    (hf : ∀ a, (outcome (f a) s).2 = s) : (outcome (x >>= f) s).2 = s := by
  rw [outcome_bind]
  rcases h : outcome x s with ⟨e | a, t⟩
  · rwa [h] at hx
  · obtain rfl : t = s := by rwa [h] at hx
    exact hf a

theorem session_connected (s : Session σ) : (outcome (connected w) s).2 = s := by
  rw [outcome_connected]

theorem session_supports (capability : String) (s : Session σ) :
    (outcome (supports w capability) s).2 = s := by
  refine session_bind (session_connected w s) fun _ => session_bind rfl fun _ => ?_
  exact session_bind (by rw [outcome_attempt]) fun _ => rfl

theorem session_require (capabilities : List String) (s : Session σ) :
    (outcome (require w capabilities) s).2 = s := by
  induction capabilities with
  | nil => rfl
  | cons capability rest ih =>
      refine session_bind (session_supports w capability s) fun b => ?_
      cases b
      · rfl
      · exact ih

theorem within_of_session {x : Client σ α} (h : (outcome x s).2 = s) : Within allowed x s := by
  rw [Within, h]
  exact .refl

theorem within_exchange {method : String} {params : Json} (hm : method ≠ openMethod)
    (hs : allowed s.traffic ⟨method, params⟩) : Within allowed (exchange w method params) s := by
  rw [Within, outcome_exchange]
  split
  · exact .single (.ask ⟨method, params⟩ hm hs rfl rfl)
  · exact .refl

theorem within_query {method : String} {params : Json} (hm : method ≠ openMethod)
    (hs : allowed s.traffic ⟨method, params⟩) : Within allowed (query w method params) s := by
  refine (within_exchange w hm hs).tryCatch fun e t _ => ?_
  cases e
  case rejected => exact (within_note _ _ _ t).bind fun _ u _ => within_pure _ u
  all_goals exact within_throw _ t

theorem within_implementations {uri : Json} {p : Position}
    (hs : allowed s.traffic ⟨implementationMethod, .object (placeParams uri p)⟩) :
    Within allowed (implementations w uri p) s := by
  refine (within_of_session (session_require w _ s)).bind fun _ t ht => ?_
  obtain rfl : t = s := by simpa [ht] using session_require w [implementationCapability] s
  refine (within_query w (by decide) hs).bind fun reply u _ => ?_
  exact (within_attempt _ u).bind fun found v _ => within_pure _ v

theorem within_outline {uri : Json}
    (hs : allowed s.traffic ⟨outlineMethod, .object [("textDocument", .object [("uri", uri)])]⟩) :
    Within allowed (outline w uri) s := by
  refine (within_of_session (session_require w _ s)).bind fun _ t ht => ?_
  obtain rfl : t = s := by simpa [ht] using session_require w [outlineCapability] s
  exact (within_query w (by decide) hs).bind fun reply u _ => within_attempt _ u

theorem outline_ok {uri : Json} {symbols : List Symbol}
    (h : outcome (outline w uri) s = (.ok symbols, t)) :
    symbols = [] ∨ ∃ params state reply, (w.request outlineMethod params state).result = .ok reply ∧
      (objects reply).mapM Symbol.ofJson = .ok symbols := by
  obtain ⟨-, v, -, h⟩ := outcome_bind_ok.mp h
  obtain ⟨reply, u, hq, h⟩ := outcome_bind_ok.mp h
  simp only [outcome_attempt, Prod.mk.injEq] at h
  obtain hreply | rfl := (query_ok w hq).2.2
  · exact .inr ⟨_, _, reply, hreply, h.1⟩
  · exact .inl (Except.ok.inj h.1).symm

end CodeAtlas.Client
