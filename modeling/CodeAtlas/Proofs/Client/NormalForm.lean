import CodeAtlas.Proofs.CallTrace.Script
import CodeAtlas.Proofs.Client.Opening
import CodeAtlas.Proofs.Client.Operations

namespace CodeAtlas.Client

variable {σ τ ι : Type}

/-- An outage has no normal form: it ends what the client is at. -/
def normalForm : Except Failure Json → Except Failure (List Json)
  | .ok (.list items) => .ok (items.filter Json.isObject)
  | .ok (.object fields) => .ok [.object fields]
  | .ok _ => .ok []
  | .error (.rejected ..) => .ok []
  | .error e => .error e

theorem normalForm_ok (reply : Json) : normalForm (.ok reply) = .ok (objects reply) := by
  cases reply <;> rfl

/-- Sessions of two clients that have told and been told the same. -/
structure Beside (R : σ → τ → Prop) (s : Session σ) (t : Session τ) : Prop where
  world : R s.world t.world
  texts : s.texts = t.texts
  traffic : s.traffic = t.traffic

/-- Related states of two worlds look alike to a client, but for the wording
of replies, and stay related whatever it does. -/
structure Corresponds (R : σ → τ → Prop) (w : World σ) (v : World τ) : Prop where
  isRunning : ∀ a b, R a b → w.isRunning a = v.isRunning b
  capabilities : ∀ a b, R a b → w.capabilities a = v.capabilities b
  request : ∀ method params a b, R a b →
    normalForm (w.request method params a).result = normalForm (v.request method params b).result ∧
      R (w.request method params a).world (v.request method params b).world
  notify : ∀ method params a b, R a b →
    (w.notify method params a).result = (v.notify method params b).result ∧
      R (w.notify method params a).world (v.notify method params b).world
  readFile : ∀ path a b, R a b →
    (w.readFile path a).1 = (v.readFile path b).1 ∧ R (w.readFile path a).2 (v.readFile path b).2
  absolute : w.absolute = v.absolute

theorem answers_offline {w : World σ} {s : Session σ} (h : w.isRunning s.world = false)
    (method : String) (params : Json) :
    outcome (answers w method params) s = (.error (.unavailable .notConnected), s) := by
  rw [answers, outcome_map, query, outcome_tryCatch, outcome_exchange, if_neg (by simp [h])]
  rfl

theorem answers_running {w : World σ} {s : Session σ} (h : w.isRunning s.world = true)
    (method : String) (params : Json) :
    (outcome (answers w method params) s).1 =
        normalForm (w.request method params s.world).result ∧
      ∃ log, (outcome (answers w method params) s).2 = { asked w method params s with log := log } := by
  rw [answers, outcome_map, query, outcome_tryCatch, outcome_exchange, if_pos h]
  cases (w.request method params s.world).result with
  | ok reply => exact ⟨(normalForm_ok reply).symm, _, rfl⟩
  | error e => cases e <;> exact ⟨rfl, _, rfl⟩

variable {R : σ → τ → Prop} {w : World σ} {v : World τ} {s : Session σ} {t : Session τ}

theorem Beside.afterReading (h : Corresponds R w v) (hst : Beside R s t) (path : Path) :
    Beside R (afterReading w path s) (afterReading v path t) :=
  ⟨(h.readFile path _ _ hst.world).2, hst.texts, hst.traffic⟩

theorem agree_supports (h : Corresponds R w v) (capability : String) :
    Agree (Beside R) (supports w capability) (supports v capability) := by
  intro s t hst
  rw [session_supports, session_supports]
  refine ⟨?_, hst⟩
  simp only [supports, outcome_bind, outcome_connected, outcome_get, outcome_attempt,
    h.isRunning _ _ hst.world]
  cases v.isRunning t.world with
  | false => rfl
  | true =>
      simp only [if_true, h.capabilities _ _ hst.world]
      cases (v.capabilities t.world).field capability <;> rfl

theorem agree_answers (h : Corresponds R w v) (method : String) (params : Json) :
    Agree (Beside R) (answers w method params) (answers v method params) := by
  intro s t hst
  have hrunning := h.isRunning _ _ hst.world
  cases ht : v.isRunning t.world with
  | false =>
      rw [answers_offline (hrunning.trans ht), answers_offline ht]
      exact ⟨rfl, hst⟩
  | true =>
      obtain ⟨hw, log, hs⟩ := answers_running (hrunning.trans ht) method params
      obtain ⟨hv, log', ht⟩ := answers_running ht method params
      obtain ⟨hreply, hworld⟩ := h.request method params _ _ hst.world
      rw [hw, hv, hs, ht]
      refine ⟨hreply, hworld, hst.texts, ?_⟩
      exact congrArg (fun sent => sent ++ [⟨method, params⟩]) hst.traffic

theorem agree_text (h : Corresponds R w v) (uri : String) :
    Agree (Beside R) (text w uri) (text v uri) := by
  intro s t hst
  cases hl : t.texts.lookup uri with
  | some known =>
      rw [outcome_text_known w (hst.texts ▸ hl), outcome_text_known v hl]
      exact ⟨rfl, hst⟩
  | none =>
      rw [outcome_text_unknown w (hst.texts ▸ hl), outcome_text_unknown v hl]
      cases Document.pathOfUri uri with
      | error e => exact ⟨rfl, hst⟩
      | ok path =>
          refine ⟨?_, hst.afterReading h path⟩
          exact congrArg (Except.map decoded) (h.readFile path _ _ hst.world).1

theorem agree_announce (h : Corresponds R w v) (uri language content : String) :
    Agree (Beside R) (announce w uri language content) (announce v uri language content) := by
  intro s t hst
  obtain ⟨hresult, hworld⟩ := h.notify openMethod (openParams uri language content) _ _ hst.world
  have htraffic := congrArg (· ++ [⟨openMethod, openParams uri language content⟩]) hst.traffic
  rw [outcome_announce, outcome_announce]
  simp only [hresult]
  cases (v.notify openMethod (openParams uri language content) t.world).result with
  | error e => exact ⟨rfl, hworld, hst.texts, htraffic⟩
  | ok _ => exact ⟨rfl, hworld, congrArg (· ++ [(uri, content)]) hst.texts, htraffic⟩

theorem agree_ensureOpen (h : Corresponds R w v) (uri : String) :
    Agree (Beside R) (ensureOpen w uri) (ensureOpen v uri) := by
  intro s t hst
  cases hl : t.texts.lookup uri with
  | some known =>
      rw [outcome_ensureOpen_known w (hst.texts ▸ hl), outcome_ensureOpen_known v hl]
      exact ⟨rfl, hst⟩
  | none =>
      rw [outcome_ensureOpen_unknown w (hst.texts ▸ hl), outcome_ensureOpen_unknown v hl]
      cases Document.pathOfUri uri with
      | error e => exact ⟨rfl, hst⟩
      | ok path =>
          -- whether the server still runs is asked after the reading, which may change the world
          have hread := hst.afterReading h path
          simp only [(h.readFile path _ _ hst.world).1, h.isRunning _ _ hread.world]
          cases (v.readFile path t.world).1 with
          | error e => exact ⟨rfl, hread⟩
          | ok bytes =>
              cases v.isRunning (afterReading v path t).world with
              | false => exact ⟨rfl, hread⟩
              | true => exact agree_announce h _ _ _ _ _ hread

theorem Corresponds.companions (h : Corresponds R w v) : Companions (Beside R) w v where
  note _ _ _ _ _ hst := ⟨rfl, hst.world, hst.texts, hst.traffic⟩
  supports := agree_supports h
  answers := agree_answers h
  text := agree_text h
  ensureOpen := agree_ensureOpen h
  absolute := h.absolute

/-- Two clients whose servers give replies of the same normal forms, and whose
worlds otherwise change alike, get the same answers from all operations, send
the same messages and come to hold the same documents. -/
theorem play_normalForm (h : Corresponds R w v) (change : ι → σ → σ) (change' : ι → τ → τ)
    (hc : ∀ i a b, R a b → R (change i a) (change' i b)) (a : σ) (b : τ) (hab : R a b)
    (deeds : List (Deed ι)) :
    (play w change deeds (.start a)).1 = (play v change' deeds (.start b)).1 ∧
      (play w change deeds (.start a)).2.traffic = (play v change' deeds (.start b)).2.traffic ∧
      (play w change deeds (.start a)).2.texts = (play v change' deeds (.start b)).2.texts := by
  have houtside : ∀ i s t, Beside R s t →
      Beside R { s with world := change i s.world } { t with world := change' i t.world } :=
    fun i s t hst => ⟨hc i _ _ hst.world, hst.texts, hst.traffic⟩
  have hstart : Beside R (.start a) (.start b) := ⟨hab, rfl, rfl⟩
  obtain ⟨hanswers, hlast⟩ := h.companions.play houtside deeds hstart
  exact ⟨hanswers, hlast.traffic, hlast.texts⟩

def reworded : Except Failure Json → Except Failure Json
  | .ok (.list items) => .ok (.list (.null :: items))
  | .ok (.object fields) => .ok (.list [.object fields, .int 5])
  | .ok .null => .error (.rejected "" .null .null .null)
  | .ok _ => .ok .null
  | .error (.rejected ..) => .ok (.text "no")
  | .error e => .error e

theorem normalForm_reworded (r : Except Failure Json) : normalForm (reworded r) = normalForm r := by
  rcases r with e | reply
  · cases e <;> rfl
  · cases reply <;> rfl

def otherWords (w : World σ) : World σ :=
  { w with request := fun method params a =>
      let turn := w.request method params a
      { turn with result := reworded turn.result } }

theorem corresponds_otherWords (w : World σ) : Corresponds Eq w (otherWords w) where
  isRunning _ _ h := h ▸ rfl
  capabilities _ _ h := h ▸ rfl
  request method params a b h := by
    subst h
    exact ⟨(normalForm_reworded _).symm, rfl⟩
  notify _ _ _ _ h := h ▸ ⟨rfl, rfl⟩
  readFile _ _ _ h := h ▸ ⟨rfl, rfl⟩
  absolute := rfl

/-- A trace and an outline in the middle of which the world may change. -/
def sampleDeeds : List (Deed Unit) :=
  [.performs (.traceAt 5 "/m" ⟨0, 0⟩), .outside (), .performs (.outline (.text "file:///m"))]

theorem play_otherWords :
    let plain := play CallTrace.Script.diamond.world (fun _ a => a) sampleDeeds (.start ())
    let other := play (otherWords CallTrace.Script.diamond.world) (fun _ a => a) sampleDeeds
      (.start ())
    (plain.1 = other.1 ∧ plain.2.traffic = other.2.traffic ∧ plain.2.texts = other.2.texts) ∧
      plain.2.traffic.length = 13 :=
  ⟨play_normalForm (corresponds_otherWords CallTrace.Script.diamond.world) (fun _ a => a)
    (fun _ a => a) (fun _ _ _ hab => hab) () () rfl sampleDeeds, by decide +kernel⟩

end CodeAtlas.Client
