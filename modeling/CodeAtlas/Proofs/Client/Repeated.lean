import CodeAtlas.Proofs.Client.Steady

namespace CodeAtlas.Client

variable {σ α : Type} {w : World σ} {s t u : Session σ} {uri content : String}

theorem fatal_not_connected : Fatal (.error (.unavailable .notConnected) : Except Failure α) :=
  ⟨_, rfl, rfl, rfl⟩

theorem supports_answered_or_fatal (capability : String) (s : Session σ) :
    (∃ b, outcome (supports w capability) s = (.ok b, s)) ∨
      Fatal (outcome (supports w capability) s).1 := by
  simp only [supports, outcome_bind, outcome_connected, outcome_get, outcome_attempt]
  cases w.isRunning s.world with
  | false => exact .inr fatal_not_connected
  | true =>
      simp only [if_true]
      cases w.capabilities s.world with
      | object fields => exact .inl ⟨_, rfl⟩
      | _ => exact .inr ⟨.notObject, rfl, rfl, rfl⟩

theorem require_passed_or_fatal (capabilities : List String) (s : Session σ) :
    (outcome (require w capabilities) s).1 = .ok () ∨
      Fatal (outcome (require w capabilities) s).1 := by
  induction capabilities with
  | nil => exact .inl rfl
  | cons capability rest ih =>
      obtain ⟨b, hb⟩ | hfatal := supports_answered_or_fatal (w := w) capability s
      · rw [require, outcome_bind, hb]
        cases b with
        | false => exact .inr ⟨.unsupported capability, rfl, rfl, rfl⟩
        | true => exact ih
      · exact .inr (hfatal.bind _)

theorem repeats_require (capabilities : List String) : Repeats w (require w capabilities) where
  faithful s hs := by
    rw [session_require]
    exact hs
  alike s t _ _ := by
    obtain hs | hs := require_passed_or_fatal (w := w) capabilities s
    · obtain ht | ht := require_passed_or_fatal (w := w) capabilities t
      · exact .inl (hs.trans ht.symm)
      · exact .inr (.inr ht)
    · exact .inr (.inl hs)

def absorbed : Except Failure Json → Except Failure Json
  | .error (.rejected ..) => .ok .null
  | r => r

theorem query_result (method : String) (params : Json) (s : Session σ) :
    (outcome (query w method params) s).1 =
        (if w.isRunning s.world then absorbed (w.request method params s.world).result
          else .error (.unavailable .notConnected)) ∧
      (outcome (query w method params) s).2.texts = s.texts := by
  rw [query, outcome_tryCatch, outcome_exchange]
  cases w.isRunning s.world with
  | false => exact ⟨rfl, rfl⟩
  | true =>
      simp only [if_true]
      cases (w.request method params s.world).result with
      | ok reply => exact ⟨rfl, rfl⟩
      | error e => cases e <;> exact ⟨rfl, rfl⟩

theorem repeats_query (hw : Steady w) (method : String) (params : Json) :
    Repeats w (query w method params) where
  faithful s hs := hs.congr (query_result method params s).2
  alike s t _ _ := by
    rw [(query_result method params s).1, (query_result method params t).1]
    cases w.isRunning s.world with
    | false => exact .inr (.inl fatal_not_connected)
    | true =>
        cases w.isRunning t.world with
        | false => exact .inr (.inr fatal_not_connected)
        | true => exact .inl (by rw [hw.request method params s.world t.world])

theorem repeats_implementations (hw : Steady w) (uri : Json) (p : Position) :
    Repeats w (implementations w uri p) :=
  (repeats_require _).bind fun _ => (repeats_query hw _ _).bind fun _ =>
    (repeats_attempt _).bind fun _ => repeats_pure _

theorem repeats_outline (hw : Steady w) (uri : Json) : Repeats w (outline w uri) :=
  (repeats_require _).bind fun _ => (repeats_query hw _ _).bind fun _ => repeats_attempt _

theorem fileText_steady (hw : Steady w) (a b : σ) (uri : String) :
    fileText w a uri = fileText w b uri := by
  simp only [fileText, hw.readFile _ a b]

theorem opening_steady (hw : Steady w) (a b : σ) (uri : String) :
    opening w a uri = opening w b uri := by
  simp only [opening, fileText_steady hw a b, hw.notify _ _ a b]

theorem fileText_of_opening {a : σ} (h : opening w a uri = .ok content) :
    fileText w a uri = .ok content := by
  unfold opening at h
  cases hfile : fileText w a uri with
  | error e => simp [hfile, bind, Except.bind] at h
  | ok found =>
      cases hpath : Document.pathOfUri uri with
      | error e => simp [hfile, hpath, bind, Except.bind] at h
      | ok path =>
          cases hn : (w.notify openMethod (openParams uri (Document.languageOf path) found)
              a).result with
          | error e => simp [hfile, hpath, hn, bind, Except.bind] at h
          | ok _ => simpa [hfile, hpath, hn, bind, Except.bind, pure, Except.pure] using h

theorem text_result (hs : Faithful w s) (uri : String) :
    (outcome (text w uri) s).1 = fileText w s.world uri := by
  cases h : s.texts.lookup uri with
  | some known =>
      rw [outcome_text_known w h, fileText_of_opening (hs uri known h s.world)]
  | none =>
      simp only [text, fileText, outcome_bind, outcome_get, outcome_attempt, h]
      cases Document.pathOfUri uri with
      | error e => rfl
      | ok path =>
          simp only [outcome_modify]
          cases hread : (w.readFile path s.world).1 with
          | error e => simp [hread, bind, Except.bind]
          | ok bytes =>
              simp [hread, bind, Except.bind]
              rfl

theorem repeats_text (hw : Steady w) (uri : String) : Repeats w (text w uri) where
  faithful s hs := hs.congr (text_rest w uri s).1
  alike s t hs ht := by
    rw [text_result hs, text_result ht, fileText_steady hw s.world t.world]
    exact .inl rfl

theorem repeats_readText (hw : Steady w) (uri : String) (range : Option Range) :
    Repeats w (readText w uri range) :=
  (repeats_text hw uri).bind fun _ => (repeats_attempt _).bind fun _ => repeats_pure _

theorem Faithful.append (hs : Faithful w s) (h : ∀ a, opening w a uri = .ok content)
    (ht : t.texts = s.texts ++ [(uri, content)]) : Faithful w t := by
  intro other known hl a
  rw [ht, List.lookup_append, Option.or_eq_some_iff] at hl
  obtain hl | ⟨-, hl⟩ := hl
  · exact hs other known hl a
  · by_cases he : other = uri
    · subst he
      obtain rfl : content = known := by simpa using hl
      exact h a
    · have hne : (other == uri) = false := by simpa using he
      simp [List.lookup_cons, hne] at hl

theorem opening_of_announced {a : σ} {path : Path} (hfile : fileText w a uri = .ok content)
    (hpath : Document.pathOfUri uri = .ok path) :
    opening w a uri =
      (w.notify openMethod (openParams uri (Document.languageOf path) content) a).result.map
        fun _ => content := by
  rw [opening, hfile, hpath]
  rfl

theorem announce_result (uri language content : String) (s : Session σ) :
    (outcome (announce w uri language content) s).1 =
        (w.notify openMethod (openParams uri language content) s.world).result.map
          (fun _ => content) ∧
      (outcome (announce w uri language content) s).2.texts =
        match (w.notify openMethod (openParams uri language content) s.world).result with
        | .ok _ => s.texts ++ [(uri, content)]
        | .error _ => s.texts := by
  simp only [announce, outcome_bind, outcome_record, outcome_get, outcome_settle]
  cases (w.notify openMethod (openParams uri language content) s.world).result <;> exact ⟨rfl, rfl⟩

theorem ensureOpen_result (hw : Steady w) (hs : Faithful w s) (uri : String) :
    Faithful w (outcome (ensureOpen w uri) s).2 ∧
      ((outcome (ensureOpen w uri) s).1 = opening w s.world uri ∨
        Fatal (outcome (ensureOpen w uri) s).1) := by
  cases h : s.texts.lookup uri with
  | some known =>
      rw [outcome_ensureOpen_known w h, hs uri known h s.world]
      exact ⟨hs, .inl rfl⟩
  | none =>
      have htext := text_result hs uri
      have hrest := (text_rest w uri s).1
      rw [ensureOpen, outcome_bind, outcome_get]
      simp only [h]
      rw [outcome_bind]
      rcases hu : outcome (text w uri) s with ⟨r, u⟩
      rw [hu] at htext hrest
      cases r with
      | error e =>
          refine ⟨hs.congr hrest, .inl ?_⟩
          rw [opening, ← htext]
          rfl
      | ok content =>
          simp only
          rw [outcome_bind, outcome_connected]
          cases w.isRunning u.world with
          | false => exact ⟨hs.congr hrest, .inr fatal_not_connected⟩
          | true =>
              simp only [if_true]
              rw [outcome_bind, outcome_attempt]
              cases hpath : Document.pathOfUri uri with
              | error e =>
                  refine ⟨hs.congr hrest, .inl ?_⟩
                  rw [opening, ← htext, hpath]
                  rfl
              | ok path =>
                  obtain ⟨hresult, htexts⟩ :=
                    announce_result (w := w) uri (Document.languageOf path) content u
                  have hopening := opening_of_announced (w := w) htext.symm hpath
                  rw [hw.notify _ _ s.world u.world, ← hresult] at hopening
                  refine ⟨?_, .inl hopening.symm⟩
                  rw [hrest] at htexts
                  cases hn : (w.notify openMethod
                      (openParams uri (Document.languageOf path) content) u.world).result with
                  | error e =>
                      rw [hn] at htexts
                      exact hs.congr htexts
                  | ok _ =>
                      rw [hn] at htexts
                      refine hs.append (fun a => ?_) htexts
                      rw [opening_steady hw a s.world, hopening, hresult, hn]
                      rfl

theorem repeats_ensureOpen (hw : Steady w) (uri : String) : Repeats w (ensureOpen w uri) where
  faithful s hs := (ensureOpen_result hw hs uri).1
  alike s t hs ht := by
    obtain hs | hs := (ensureOpen_result hw hs uri).2
    · obtain ht | ht := (ensureOpen_result hw ht uri).2
      · rw [hs, ht, opening_steady hw s.world t.world]
        exact .inl rfl
      · exact .inr (.inr ht)
    · exact .inr (.inl hs)

theorem repeats_openDocument (hw : Steady w) (uri : String) : Repeats w (openDocument w uri) :=
  (repeats_ensureOpen hw uri).bind fun _ => (repeats_outline hw _).bind fun _ => repeats_pure _

end CodeAtlas.Client
