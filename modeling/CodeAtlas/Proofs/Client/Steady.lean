import CodeAtlas.Proofs.Client.Opening

namespace CodeAtlas.Client

variable {σ α β : Type} (w : World σ)

/-- Replies and files do not depend on what happened before. Whether the
server runs and what it can do may change. -/
structure Steady : Prop where
  request : ∀ method params a b,
    (w.request method params a).result = (w.request method params b).result
  notify : ∀ method params a b,
    (w.notify method params a).result = (w.notify method params b).result
  readFile : ∀ path a b, (w.readFile path a).1 = (w.readFile path b).1

def fileText (a : σ) (uri : String) : Except Failure String := do
  let path ← Document.pathOfUri uri
  let bytes ← (w.readFile path a).1
  return String.ofList (Document.unified (Text.Utf8.decodeLossy bytes))

def opening (a : σ) (uri : String) : Except Failure String := do
  let content ← fileText w a uri
  let path ← Document.pathOfUri uri
  (w.notify openMethod (openParams uri (Document.languageOf path) content) a).result
  return content

/-- A client holds the texts that it would get by opening the documents. -/
def Faithful (s : Session σ) : Prop :=
  ∀ uri text, s.texts.lookup uri = some text → ∀ a, opening w a uri = .ok text

def Fatal (r : Except Failure α) : Prop :=
  ∃ e, r = .error e ∧ e.isFile = false ∧ e.isRefusal = false

def Alike (r r' : Except Failure α) : Prop := r = r' ∨ Fatal r ∨ Fatal r'

/-- In any two sessions the results are the same, if neither is fatal. -/
structure Repeats (x : Client σ α) : Prop where
  faithful : ∀ s, Faithful w s → Faithful w (outcome x s).2
  alike : ∀ s t, Faithful w s → Faithful w t → Alike (outcome x s).1 (outcome x t).1

variable {w} {s t u v : Session σ} {uri content : String}

theorem faithful_start (world : σ) : Faithful w (.start world) := by
  intro uri text h
  simp [Session.start] at h

theorem Faithful.congr (hs : Faithful w s) (h : t.texts = s.texts) : Faithful w t := by
  intro uri text ht
  exact hs uri text (h ▸ ht)

theorem Alike.eq_of_ok {a b : α} (h : Alike (.ok a) (.ok b)) : a = b := by
  obtain h | ⟨e, h, -⟩ | ⟨e, h, -⟩ := h
  · exact Except.ok.inj h
  · cases h
  · cases h

theorem Repeats.unique {x : Client σ α} (h : Repeats w x) (hs : Faithful w s) (ht : Faithful w t)
    {a b : α} (ha : outcome x s = (.ok a, u)) (hb : outcome x t = (.ok b, v)) : a = b := by
  have halike := h.alike s t hs ht
  rw [ha, hb] at halike
  exact halike.eq_of_ok

theorem Repeats.kept {x : Client σ α} (h : Repeats w x) (hs : Faithful w s)
    {r : Except Failure α} (hx : outcome x s = (r, u)) : Faithful w u := by
  have hu := h.faithful s hs
  rwa [hx] at hu

theorem repeats_of_result {x : Client σ α} {r : Except Failure α}
    (hx : ∀ s, ∃ t, outcome x s = (r, t) ∧ t.texts = s.texts) : Repeats w x where
  faithful s hs := by
    obtain ⟨t, ht, htexts⟩ := hx s
    rw [ht]
    exact hs.congr htexts
  alike s t _ _ := by
    obtain ⟨_, hs, -⟩ := hx s
    obtain ⟨_, ht, -⟩ := hx t
    rw [hs, ht]
    exact .inl rfl

theorem repeats_pure (a : α) : Repeats w (pure a) := repeats_of_result fun s => ⟨s, rfl, rfl⟩

theorem repeats_throw (e : Failure) : Repeats w (throw e : Client σ α) :=
  repeats_of_result fun s => ⟨s, rfl, rfl⟩

theorem repeats_attempt (r : Except Failure α) : Repeats w (attempt r) :=
  repeats_of_result fun s => ⟨s, outcome_attempt r s, rfl⟩

theorem repeats_note (level : Level) (speaker : Speaker) (message : String) :
    Repeats w (note level speaker message) :=
  repeats_of_result fun s => ⟨_, outcome_note level speaker message s, rfl⟩

theorem Repeats.split {x : Client σ α} (hx : Repeats w x) (hs : Faithful w s)
    (ht : Faithful w t) :
    (∃ r u v, outcome x s = (r, u) ∧ outcome x t = (r, v) ∧ Faithful w u ∧ Faithful w v) ∨
      Fatal (outcome x s).1 ∨ Fatal (outcome x t).1 := by
  obtain heq | hfatal := hx.alike s t hs ht
  · refine .inl ⟨(outcome x s).1, (outcome x s).2, (outcome x t).2, rfl, ?_, ?_, ?_⟩
    · rw [heq]
    · exact hx.faithful s hs
    · exact hx.faithful t ht
  · exact .inr hfatal

theorem Fatal.bind {x : Client σ α} (h : Fatal (outcome x s).1) (f : α → Client σ β) :
    Fatal (outcome (x >>= f) s).1 := by
  obtain ⟨e, he, hkind⟩ := h
  refine ⟨e, ?_, hkind⟩
  rw [outcome_bind]
  rcases hx : outcome x s with ⟨r, u⟩
  obtain rfl : r = .error e := by rwa [hx] at he
  rfl

theorem Fatal.recover {x : Client σ α} {f : Failure → Client σ α} (h : Fatal (outcome x s).1)
    (hf : ∀ e, e.isFile = false → e.isRefusal = false → f e = throw e) :
    Fatal (outcome (tryCatch x f) s).1 := by
  obtain ⟨e, he, hfile, hrefusal⟩ := h
  refine ⟨e, ?_, hfile, hrefusal⟩
  rw [outcome_tryCatch]
  rcases hx : outcome x s with ⟨r, u⟩
  obtain rfl : r = .error e := by rwa [hx] at he
  simp only
  rw [hf e hfile hrefusal, outcome_throw]

theorem Repeats.bind {x : Client σ α} {f : α → Client σ β} (hx : Repeats w x)
    (hf : ∀ a, Repeats w (f a)) : Repeats w (x >>= f) where
  faithful s hs := by
    have ht := hx.faithful s hs
    rw [outcome_bind]
    rcases hr : outcome x s with ⟨e | a, t⟩
    · rwa [hr] at ht
    · rw [hr] at ht
      exact (hf a).faithful t ht
  alike s t hs ht := by
    obtain ⟨r, u, v, hr, hr', hu, hv⟩ | hfatal | hfatal := hx.split hs ht
    · rw [outcome_bind, outcome_bind, hr, hr']
      cases r with
      | error e => exact .inl rfl
      | ok a => exact (hf a).alike u v hu hv
    · exact .inr (.inl (hfatal.bind f))
    · exact .inr (.inr (hfatal.bind f))

theorem Repeats.recover {x : Client σ α} {f : Failure → Client σ α} (hx : Repeats w x)
    (hf : ∀ e, Repeats w (f e))
    (hfatal : ∀ e, e.isFile = false → e.isRefusal = false → f e = throw e) :
    Repeats w (tryCatch x f) where
  faithful s hs := by
    have ht := hx.faithful s hs
    rw [outcome_tryCatch]
    rcases hr : outcome x s with ⟨e | a, t⟩
    · rw [hr] at ht
      exact (hf e).faithful t ht
    · rwa [hr] at ht
  alike s t hs ht := by
    obtain ⟨r, u, v, hr, hr', hu, hv⟩ | h | h := hx.split hs ht
    · rw [outcome_tryCatch, outcome_tryCatch, hr, hr']
      cases r with
      | error e => exact (hf e).alike u v hu hv
      | ok a => exact .inl rfl
    · exact .inr (.inl (h.recover hfatal))
    · exact .inr (.inr (h.recover hfatal))

end CodeAtlas.Client
