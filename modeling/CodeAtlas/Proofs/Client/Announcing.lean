import CodeAtlas.Proofs.Client.NormalForm

namespace CodeAtlas.Client

variable {σ ι : Type} {uri content : String}

/-- The same world with a list of the notifications that were taken: those
whose call returned. -/
def recording (w : World σ) : World (σ × List Sent) where
  isRunning a := w.isRunning a.1
  capabilities a := w.capabilities a.1
  request method params a :=
    let turn := w.request method params a.1
    ⟨turn.result, turn.notes, (turn.world, a.2)⟩
  notify method params a :=
    let turn := w.notify method params a.1
    ⟨turn.result, turn.notes, (turn.world, match turn.result with
      | .ok _ => a.2 ++ [⟨method, params⟩]
      | .error _ => a.2)⟩
  readFile path a :=
    let (content, next) := w.readFile path a.1
    (content, (next, a.2))
  absolute := w.absolute

def aside (change : ι → σ → σ) (i : ι) (a : σ × List Sent) : σ × List Sent := (change i a.1, a.2)

def announced? (m : Sent) : Option (String × String) :=
  if m.method = openMethod then do
    let document ← m.params.get? "textDocument"
    match document.get? "uri", document.get? "text" with
    | some (.text uri), some (.text content) => some (uri, content)
    | _, _ => none
  else none

theorem announced?_openParams (uri language content : String) :
    announced? ⟨openMethod, openParams uri language content⟩ = some (uri, content) := rfl

/-- The documents that the server was told of, in the order it was told. -/
def taken (s : Session (σ × List Sent)) : List (String × String) := s.world.2.filterMap announced?

theorem corresponds_recording (w : World σ) : Corresponds (fun a b => a = b.1) w (recording w) where
  isRunning _ _ h := h ▸ rfl
  capabilities _ _ h := h ▸ rfl
  request _ _ _ _ h := h ▸ ⟨rfl, rfl⟩
  notify _ _ _ _ h := h ▸ ⟨rfl, rfl⟩
  readFile _ _ _ h := h ▸ ⟨rfl, rfl⟩
  absolute := rfl

/-- Each message taken announces the text that the client holds of the
document, and no document comes twice. Texts held before are still held. -/
structure Recorded (before : List (String × String)) (s : Session (σ × List Sent)) : Prop where
  record : s.world.2.map announced? = s.texts.map some
  once : (s.texts.map Prod.fst).Nodup
  kept : before <+: s.texts

variable {before : List (String × String)} {s t : Session (σ × List Sent)}

theorem Recorded.taken (h : Recorded before s) : taken s = s.texts := by
  calc s.world.2.filterMap announced?
      = (s.world.2.map announced?).filterMap id := by rw [List.filterMap_map]; rfl
    _ = (s.texts.map some).filterMap id := by rw [h.record]
    _ = s.texts := by rw [List.filterMap_map]; exact List.filterMap_some

theorem Recorded.lookup (h : Recorded before s) (hm : (uri, content) ∈ Client.taken s) :
    s.texts.lookup uri = some content := by
  -- what was announced is held somewhere, and no entry before it is of the same document
  obtain ⟨earlier, later, hs⟩ := List.append_of_mem (h.taken ▸ hm)
  refine List.lookup_eq_some_iff.mpr ⟨earlier, later, hs, fun p hp => ?_⟩
  have honce := h.once
  rw [hs, List.map_append, List.nodup_append] at honce
  have hne : p.1 ≠ uri := honce.2.2 p.1 (List.mem_map_of_mem hp) uri (by simp)
  simpa using hne.symm

theorem Recorded.unknown (h : Recorded before s) (hn : uri ∉ (Client.taken s).map Prod.fst) :
    s.texts.lookup uri = none := by
  rw [h.taken] at hn
  rw [List.lookup_eq_none_iff]
  intro p hp
  simpa using fun he : uri = p.1 => hn (he ▸ List.mem_map_of_mem hp)

theorem Recorded.congr (h : Recorded before s) (hworld : t.world.2 = s.world.2)
    (htexts : t.texts = s.texts) : Recorded before t :=
  ⟨by rw [hworld, htexts, h.record], htexts ▸ h.once, htexts ▸ h.kept⟩

variable (w : World σ)

theorem Recorded.announce (h : Recorded before s) (hl : s.texts.lookup uri = none)
    (language content : String) :
    Recorded before (outcome (announce (recording w) uri language content) s).2 := by
  rw [outcome_announce]
  dsimp only [recording]
  cases (w.notify openMethod (openParams uri language content) s.world.1).result with
  | error e => exact h.congr rfl rfl
  | ok _ =>
      constructor
      · simp only [List.map_append, List.map_cons, List.map_nil, h.record,
          announced?_openParams]
      · have hfresh : ∀ known ∈ s.texts.map Prod.fst, known ≠ uri := by
          rintro _ hk rfl
          obtain ⟨p, hp, rfl⟩ := List.mem_map.mp hk
          simpa using List.lookup_eq_none_iff.mp hl p hp
        rw [List.map_append, List.nodup_append]
        exact ⟨h.once, by simp, by simpa using hfresh⟩
      · exact h.kept.trans (List.prefix_append _ _)

theorem Recorded.ensureOpen (h : Recorded before s) (uri : String) :
    Recorded before (outcome (ensureOpen (recording w) uri) s).2 := by
  cases hl : s.texts.lookup uri with
  | some known => rwa [outcome_ensureOpen_known _ hl]
  | none =>
      rw [outcome_ensureOpen_unknown _ hl]
      cases Document.pathOfUri uri with
      | error e => exact h
      | ok path =>
          have hread : Recorded before (afterReading (recording w) path s) := h.congr rfl rfl
          dsimp only
          split
          · exact hread
          · split
            · exact hread.announce w hl _ _
            · exact hread

theorem Recorded.text (h : Recorded before s) (uri : String) :
    Recorded before (outcome (text (recording w) uri) s).2 := by
  cases hl : s.texts.lookup uri with
  | some known => rwa [outcome_text_known _ hl]
  | none =>
      rw [outcome_text_unknown _ hl]
      cases Document.pathOfUri uri with
      | error e => exact h
      | ok path => exact h.congr rfl rfl

theorem Recorded.answers (h : Recorded before s) (method : String) (params : Json) :
    Recorded before (outcome (answers (recording w) method params) s).2 := by
  cases hr : (recording w).isRunning s.world with
  | false => rwa [answers_offline hr]
  | true =>
      obtain ⟨-, log, hs⟩ := answers_running hr method params
      rw [hs]
      exact h.congr rfl rfl

theorem companions_recorded :
    Companions (fun s t => s = t ∧ Recorded before s) (recording w) (recording w) where
  note _ _ _ := agree_self fun _ hs => hs.congr rfl rfl
  supports _ := agree_self fun _ hs => by rwa [session_supports]
  answers method params := agree_self fun _ hs => hs.answers w method params
  text uri := agree_self fun _ hs => hs.text w uri
  ensureOpen uri := agree_self fun _ hs => hs.ensureOpen w uri
  absolute := rfl

theorem Recorded.play (h : Recorded before s) (change : ι → σ → σ) (deeds : List (Deed ι)) :
    Recorded before (play (recording w) (aside change) deeds s).2 := by
  have houtside : ∀ i s t, s = t ∧ Recorded before s →
      { s with world := aside change i s.world } = { t with world := aside change i t.world } ∧
        Recorded before { s with world := aside change i s.world } := by
    rintro i s _ ⟨rfl, hs⟩
    exact ⟨rfl, hs.congr rfl rfl⟩
  exact ((companions_recorded w).play houtside deeds ⟨rfl, h⟩).2.2

/-- A document that the client serves from one text, whatever the world holds. -/
structure ServedFrom (w : World σ) (uri content : String) (s : Session σ) : Prop where
  ensureOpen : outcome (ensureOpen w uri) s = (.ok content, s)
  openDocument : ∀ document t,
    outcome (openDocument w uri) s = (.ok document, t) → document.text = content
  readText : ∀ range,
    outcome (readText w uri range) s = ((Document.slice content.toList range).map String.ofList, s)

theorem servedFrom_of_lookup {w : World σ} {s : Session σ} (h : s.texts.lookup uri = some content) :
    ServedFrom w uri content s where
  ensureOpen := outcome_ensureOpen_known w h
  openDocument document t ht := by
    obtain ⟨found, u, hopen, ht⟩ := outcome_bind_ok.mp ht
    rw [outcome_ensureOpen_known w h, Prod.mk.injEq, Except.ok.injEq] at hopen
    obtain ⟨symbols, v, -, ht⟩ := outcome_bind_ok.mp ht
    rw [outcome_pure, Prod.mk.injEq, Except.ok.injEq] at ht
    rw [← ht.1, ← hopen.1]
  readText := outcome_readText_known w h

/-- An opening that fails sends nothing, unless it is the server that refuses
the announcement. -/
structure Unopened (w : World σ) (e : Failure) (s t : Session (σ × List Sent)) : Prop where
  record : t.world.2 = s.world.2
  texts : t.texts = s.texts
  traffic : t.traffic = s.traffic ∨
    ∃ m a, (w.notify m.method m.params a).result = .error e ∧ t.traffic = s.traffic ++ [m]

theorem unopened_of_announce {e : Failure} {language : String}
    (h : outcome (announce (recording w) uri language content) s = (.error e, t)) :
    Unopened w e s t := by
  rw [outcome_announce] at h
  cases hn : (w.notify openMethod (openParams uri language content) s.world.1).result with
  | ok _ => simp [recording, hn] at h
  | error e' =>
      simp only [recording, hn, Prod.mk.injEq, Except.error.injEq] at h
      obtain ⟨rfl, rfl⟩ := h
      exact ⟨rfl, rfl, .inr ⟨_, _, hn, rfl⟩⟩

theorem unopened_of_error {e : Failure}
    (h : outcome (ensureOpen (recording w) uri) s = (.error e, t)) : Unopened w e s t := by
  cases hl : s.texts.lookup uri with
  | some known => simp [outcome_ensureOpen_known _ hl] at h
  | none =>
      rw [outcome_ensureOpen_unknown _ hl] at h
      cases hpath : Document.pathOfUri uri with
      | error e' =>
          simp only [hpath, Prod.mk.injEq] at h
          obtain ⟨-, rfl⟩ := h
          exact ⟨rfl, rfl, .inl rfl⟩
      | ok path =>
          simp only [hpath] at h
          split at h
          · obtain ⟨-, rfl⟩ := Prod.mk.inj h
            exact ⟨rfl, rfl, .inl rfl⟩
          · split at h
            · obtain ⟨hrecord, htexts, htraffic⟩ := unopened_of_announce w h
              exact ⟨hrecord, htexts, htraffic⟩
            · obtain ⟨-, rfl⟩ := Prod.mk.inj h
              exact ⟨rfl, rfl, .inl rfl⟩

theorem opened_of_readable (h : Recorded before s) (hn : uri ∉ (taken s).map Prod.fst) {path : Path}
    {bytes : List UInt8} (hpath : Document.pathOfUri uri = .ok path)
    (hread : (w.readFile path s.world.1).1 = .ok bytes)
    (hrunning : w.isRunning (w.readFile path s.world.1).2 = true)
    (htaken : (w.notify openMethod (openParams uri (Document.languageOf path) (decoded bytes))
      (w.readFile path s.world.1).2).result = .ok ()) :
    ∃ t, outcome (ensureOpen (recording w) uri) s = (.ok (decoded bytes), t) ∧
      taken t = taken s ++ [(uri, decoded bytes)] := by
  have hrunning' :
      (recording w).isRunning (afterReading (recording w) path s).world = true := hrunning
  have hread' : ((recording w).readFile path s.world).1 = .ok bytes := hread
  rw [outcome_ensureOpen_unknown _ (h.unknown hn), hpath]
  simp only [hread']
  rw [if_pos hrunning', outcome_announce]
  simp only [recording, afterReading, htaken]
  refine ⟨_, rfl, ?_⟩
  simp [taken, announced?_openParams]

/-- The announcements that a server took from a client, and what comes of
each document after a session. -/
structure Announcements (w : World σ) (change : ι → σ → σ) (s : Session (σ × List Sent)) :
    Prop where
  /-- Nothing but announcements was taken, and they are of the texts that the client holds. -/
  record : s.world.2.map announced? = s.texts.map some
  once : ((taken s).map Prod.fst).Nodup
  /-- A document that was announced is served from the text of the announcement ever after. -/
  served : ∀ uri content, (uri, content) ∈ taken s → ∀ more : List (Deed ι),
    ServedFrom (recording w) uri content (play (recording w) (aside change) more s).2
  /-- An opening that fails announces nothing and leaves no trace. -/
  failed : ∀ uri e t, outcome (ensureOpen (recording w) uri) s = (.error e, t) → Unopened w e s t
  /-- Whatever failed before, a document that was not announced can be opened. -/
  opens : ∀ uri path bytes, uri ∉ (taken s).map Prod.fst → Document.pathOfUri uri = .ok path →
    (w.readFile path s.world.1).1 = .ok bytes →
    w.isRunning (w.readFile path s.world.1).2 = true →
    (w.notify openMethod (openParams uri (Document.languageOf path) (decoded bytes))
      (w.readFile path s.world.1).2).result = .ok () →
    ∃ t, outcome (ensureOpen (recording w) uri) s = (.ok (decoded bytes), t) ∧
      taken t = taken s ++ [(uri, decoded bytes)]

theorem Recorded.announcements (h : Recorded before s) (change : ι → σ → σ) :
    Announcements w change s where
  record := h.record
  once := h.taken.symm ▸ h.once
  served uri content hm more := by
    -- a text held now is found first ever after, as new ones are appended
    have hnow : Recorded s.texts s := ⟨h.record, h.once, List.prefix_rfl⟩
    exact servedFrom_of_lookup ((hnow.play w change more).kept.lookup_eq_some (h.lookup hm))
  failed _ _ _ ht := unopened_of_error w ht
  opens _ _ _ hn hpath hread hrunning htaken :=
    opened_of_readable w h hn hpath hread hrunning htaken

/-- A server takes one announcement of a document at most, and a client serves
a document that was announced from the announced text, whatever it does and
whatever becomes of the world. The record changes nothing in that. -/
theorem play_announcesOnce (w : World σ) (change : ι → σ → σ) (a : σ) (deeds : List (Deed ι)) :
    let plain := play w change deeds (.start a)
    let recorded := play (recording w) (aside change) deeds (.start (a, []))
    recorded.1 = plain.1 ∧ recorded.2.world.1 = plain.2.world ∧
      recorded.2.traffic = plain.2.traffic ∧ recorded.2.texts = plain.2.texts ∧
      Announcements w change recorded.2 := by
  intro plain recorded
  have houtside : ∀ i s t, Beside (fun a (b : σ × List Sent) => a = b.1) s t →
      Beside (fun a b => a = b.1) { s with world := change i s.world }
        { t with world := aside change i t.world } :=
    fun i s t hst => ⟨congrArg (change i) hst.world, hst.texts, hst.traffic⟩
  have hstart : Beside (fun a (b : σ × List Sent) => a = b.1) (.start a) (.start (a, [])) :=
    ⟨rfl, rfl, rfl⟩
  obtain ⟨hanswers, hworld, htexts, htraffic⟩ :=
    (corresponds_recording w).companions.play houtside deeds hstart
  have hrecorded : Recorded [] (.start (a, []) : Session (σ × List Sent)) :=
    ⟨rfl, List.nodup_nil, List.prefix_rfl⟩
  exact ⟨hanswers.symm, hworld.symm, htraffic.symm, htexts.symm,
    (hrecorded.play w change deeds).announcements w change⟩

def shelf : World (Option (List UInt8)) where
  isRunning _ := true
  capabilities _ := .object []
  request _ _ a := ⟨.ok .null, [], a⟩
  notify _ _ a := ⟨.ok (), [], a⟩
  readFile path a := (a.elim (.error (.file (.missing path.toText))) .ok, a)
  absolute := .ok

/-- A file is asked for before it is there, opened once it is, and then lost. -/
def lostFile : List (Deed (Option (List UInt8))) :=
  [.performs (.ensureOpen "file:///m"), .outside (some [104, 105]),
    .performs (.ensureOpen "file:///m"), .outside none]

theorem play_lostFile :
    let s := (play (recording shelf) (aside fun i _ => i) lostFile (.start (none, []))).2
    taken s = [("file:///m", "hi")] ∧
      outcome (readText (recording shelf) "file:///m" none) s = (.ok "hi", s) := by
  intro s
  obtain ⟨-, -, -, -, h⟩ := play_announcesOnce shelf (fun i _ => i) none lostFile
  have htaken : taken s = [("file:///m", "hi")] := by decide +kernel
  have hserved := h.served "file:///m" "hi" (htaken.symm ▸ List.mem_singleton_self _) []
  exact ⟨htaken, hserved.readText none⟩

end CodeAtlas.Client
