import CodeAtlas.Proofs.Client.Within

namespace CodeAtlas.Client

variable {σ : Type} {allowed : List Sent → Sent → Prop} {s t : Session σ} {uri : String}
variable (w : World σ)

def decoded (bytes : List UInt8) : String :=
  String.ofList (Document.unified (Text.Utf8.decodeLossy bytes))

def afterReading (path : Path) (s : Session σ) : Session σ :=
  { s with world := (w.readFile path s.world).2 }

theorem outcome_text_known {known : String} (h : s.texts.lookup uri = some known) :
    outcome (text w uri) s = (.ok known, s) := by
  simp [text, outcome_bind, h]

theorem outcome_text_unknown (h : s.texts.lookup uri = none) :
    outcome (text w uri) s = match Document.pathOfUri uri with
      | .error e => (.error e, s)
      | .ok path => ((w.readFile path s.world).1.map decoded, afterReading w path s) := by
  simp only [text, outcome_bind, outcome_get, outcome_attempt, h]
  cases Document.pathOfUri uri with
  | error e => rfl
  | ok path =>
      simp only [outcome_modify]
      cases (w.readFile path s.world).1 <;> rfl

theorem text_rest (uri : String) (s : Session σ) :
    (outcome (text w uri) s).2.texts = s.texts ∧
      (outcome (text w uri) s).2.traffic = s.traffic := by
  cases h : s.texts.lookup uri with
  | some known => simp [outcome_text_known w h]
  | none =>
      rw [outcome_text_unknown w h]
      cases Document.pathOfUri uri <;> exact ⟨rfl, rfl⟩

theorem outcome_readText_known {known : String} (h : s.texts.lookup uri = some known)
    (range : Option Range) :
    outcome (readText w uri range) s =
      ((Document.slice known.toList range).map String.ofList, s) := by
  simp only [readText, outcome_bind, outcome_text_known w h, outcome_attempt]
  cases Document.slice known.toList range <;> rfl

/-- Send the announcement, and remember it if the server has taken it. -/
def announce (uri language content : String) : Client σ String := do
  record openMethod (openParams uri language content)
  settle (w.notify openMethod (openParams uri language content) (← get).world)
  modify fun s => { s with texts := s.texts ++ [(uri, content)] }
  return content

theorem outcome_announce (uri language content : String) (s : Session σ) :
    outcome (announce w uri language content) s =
      let turn := w.notify openMethod (openParams uri language content) s.world
      let sent := { s with
        world := turn.world
        traffic := s.traffic ++ [⟨openMethod, openParams uri language content⟩]
        log := s.log ++ turn.notes }
      match turn.result with
      | .ok _ => (.ok content, { sent with texts := s.texts ++ [(uri, content)] })
      | .error e => (.error e, sent) := by
  simp only [announce, outcome_bind, outcome_record, outcome_get, outcome_settle]
  cases (w.notify openMethod (openParams uri language content) s.world).result <;> rfl

theorem within_announce (h : s.texts.lookup uri = none) (language content : String) :
    Within allowed (announce w uri language content) s := by
  apply within_of_step
  rw [outcome_announce]
  dsimp only
  cases (w.notify openMethod (openParams uri language content) s.world).result with
  | error e => exact .refused uri language content h rfl rfl
  | ok _ => exact .announce uri language content h rfl rfl

theorem announce_ok {language content found : String} (h : s.texts.lookup uri = none)
    (ha : outcome (announce w uri language content) s = (.ok found, t)) :
    t.texts.lookup uri = some found := by
  rw [outcome_announce] at ha
  cases hn : (w.notify openMethod (openParams uri language content) s.world).result with
  | error e => simp [hn] at ha
  | ok _ =>
      simp only [hn, Prod.mk.injEq, Except.ok.injEq] at ha
      obtain ⟨rfl, rfl⟩ := ha
      simp [List.lookup_append, h]

theorem outcome_ensureOpen_known {known : String} (h : s.texts.lookup uri = some known) :
    outcome (ensureOpen w uri) s = (.ok known, s) := by
  simp [ensureOpen, outcome_bind, h]

theorem outcome_ensureOpen_unknown (h : s.texts.lookup uri = none) :
    outcome (ensureOpen w uri) s = match Document.pathOfUri uri with
      | .error e => (.error e, s)
      | .ok path => match (w.readFile path s.world).1 with
        | .error e => (.error e, afterReading w path s)
        | .ok bytes =>
          if w.isRunning (afterReading w path s).world then
            outcome (announce w uri (Document.languageOf path) (decoded bytes))
              (afterReading w path s)
          else (.error (.unavailable .notConnected), afterReading w path s) := by
  rw [ensureOpen, outcome_bind, outcome_get]
  simp only [h]
  rw [outcome_bind, outcome_text_unknown w h]
  cases Document.pathOfUri uri with
  | error e => rfl
  | ok path =>
      cases hread : (w.readFile path s.world).1 with
      | error e => simp only [hread, Except.map]
      | ok bytes =>
          simp only [hread, Except.map]
          rw [outcome_bind, outcome_connected]
          cases w.isRunning (afterReading w path s).world with
          | false => rfl
          | true =>
              simp only [if_true]
              rw [outcome_bind, outcome_attempt]
              rfl

theorem ensureOpen_fresh (h : s.texts.lookup uri = none) :
    ∃ u, u.texts = s.texts ∧ u.traffic = s.traffic ∧
      ((∃ e, outcome (ensureOpen w uri) s = (.error e, u)) ∨ ∃ language content,
        outcome (ensureOpen w uri) s = outcome (announce w uri language content) u) := by
  rw [outcome_ensureOpen_unknown w h]
  cases Document.pathOfUri uri with
  | error e => exact ⟨s, rfl, rfl, .inl ⟨e, rfl⟩⟩
  | ok path =>
      refine ⟨afterReading w path s, rfl, rfl, ?_⟩
      dsimp only
      split
      · exact .inl ⟨_, rfl⟩
      · split
        · exact .inr ⟨_, _, rfl⟩
        · exact .inl ⟨_, rfl⟩

theorem within_ensureOpen (uri : String) (s : Session σ) :
    Within allowed (ensureOpen w uri) s := by
  cases h : s.texts.lookup uri with
  | some known => exact within_of_session (by rw [outcome_ensureOpen_known w h])
  | none =>
      obtain ⟨u, htexts, htraffic, ⟨e, he⟩ | ⟨language, content, he⟩⟩ := ensureOpen_fresh w h
      · exact within_of_step (by rw [he]; exact .rest htexts htraffic)
      · have hu : Steps allowed s u := .single (.rest htexts htraffic)
        rw [Within, he]
        exact hu.trans (within_announce w (by rwa [htexts]) language content)

theorem ensureOpen_ok {content : String} (h : outcome (ensureOpen w uri) s = (.ok content, t)) :
    t.texts.lookup uri = some content := by
  cases hl : s.texts.lookup uri with
  | some known =>
      rw [outcome_ensureOpen_known w hl, Prod.mk.injEq, Except.ok.injEq] at h
      obtain ⟨rfl, rfl⟩ := h
      exact hl
  | none =>
      obtain ⟨u, htexts, -, ⟨e, he⟩ | ⟨language, content, he⟩⟩ := ensureOpen_fresh w hl
      · simp [he] at h
      · exact announce_ok w (by rwa [htexts]) (he ▸ h)

theorem within_openDocument {uri : String}
    (hs : ∀ t, Steps allowed s t → allowed t.traffic
      ⟨outlineMethod, .object [("textDocument", .object [("uri", .text uri)])]⟩) :
    Within allowed (openDocument w uri) s := by
  have hopen : Within allowed (ensureOpen w uri) s := within_ensureOpen w uri s
  refine hopen.bind fun content t ht => ?_
  exact (within_outline w (hs t (hopen.steps ht))).bind fun symbols u _ => within_pure _ u

theorem openDocument_ok {document : OpenDocument}
    (h : outcome (openDocument w uri) s = (.ok document, t)) :
    document.uri = uri ∧ t.texts.lookup uri = some document.text ∧
      ∃ u v, outcome (outline w (.text uri)) u = (.ok document.symbols, v) := by
  obtain ⟨content, u, hopen, h⟩ := outcome_bind_ok.mp h
  obtain ⟨symbols, v, ho, h⟩ := outcome_bind_ok.mp h
  simp only [outcome_pure, Prod.mk.injEq, Except.ok.injEq] at h
  obtain ⟨rfl, rfl⟩ := h
  have hw : Within (fun _ _ => True) (outline w (.text uri)) u := within_outline w trivial
  exact ⟨rfl, (hw.steps ho).lookup (ensureOpen_ok w hopen), u, v, ho⟩

end CodeAtlas.Client
