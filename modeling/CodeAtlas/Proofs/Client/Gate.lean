import CodeAtlas.Proofs.Client.NormalForm

namespace CodeAtlas.Client

variable {σ ι : Type}

/-- A capability is absent, or no more than a falsy value. -/
def lacks (fields : List (String × Json)) (capability : String) : Bool :=
  !((fields.lookup capability).getD .null).truthy

/-- The capabilities that an operation asks for before it does anything else. -/
def Operation.needs : Operation → List String
  | require capabilities => capabilities
  | typeAt .. | buildAt .. => [typeCapability]
  | implementations .. => [implementationCapability]
  | outline _ => [outlineCapability]
  | traceAt .. => [implementationCapability, outlineCapability]
  | _ => []

def gateOf (method : String) : Option String :=
  if method ∈ Lookup.methods then some typeCapability
  else if method = implementationMethod then some implementationCapability
  else if method = outlineMethod then some outlineCapability
  else none

structure Moment where
  sent : Sent
  running : Bool
  capabilities : Json

def Moment.Open (m : Moment) : Prop :=
  ∀ capability, gateOf m.sent.method = some capability →
    m.running = true ∧ ∃ fields, m.capabilities = .object fields ∧ lacks fields capability = false

/-- The same world with a list of the moments in which messages were sent. -/
def watching (w : World σ) : World (σ × List Moment) where
  isRunning a := w.isRunning a.1
  capabilities a := w.capabilities a.1
  request method params a :=
    let turn := w.request method params a.1
    ⟨turn.result, turn.notes,
      (turn.world, a.2 ++ [⟨⟨method, params⟩, w.isRunning a.1, w.capabilities a.1⟩])⟩
  notify method params a :=
    let turn := w.notify method params a.1
    ⟨turn.result, turn.notes,
      (turn.world, a.2 ++ [⟨⟨method, params⟩, w.isRunning a.1, w.capabilities a.1⟩])⟩
  readFile path a :=
    let (content, next) := w.readFile path a.1
    (content, (next, a.2))
  absolute := w.absolute

def unwatched (change : ι → σ → σ) (i : ι) (a : σ × List Moment) : σ × List Moment :=
  (change i a.1, a.2)

theorem corresponds_watching (w : World σ) : Corresponds (fun a b => a = b.1) w (watching w) where
  isRunning _ _ h := h ▸ rfl
  capabilities _ _ h := h ▸ rfl
  request _ _ _ _ h := h ▸ ⟨rfl, rfl⟩
  notify _ _ _ _ h := h ▸ ⟨rfl, rfl⟩
  readFile _ _ _ h := h ▸ ⟨rfl, rfl⟩
  absolute := rfl

variable {w : World σ} {s t : Session σ}

theorem supports_offline (h : w.isRunning s.world = false) (capability : String) :
    outcome (supports w capability) s = (.error (.unavailable .notConnected), s) := by
  simp [supports, outcome_bind, outcome_connected, h]

theorem outcome_supports (h : w.isRunning s.world = true) (capability : String) :
    outcome (supports w capability) s = (((w.capabilities s.world).field capability).map
      fun value => (value.getD .null).truthy, s) := by
  simp only [supports, outcome_bind, outcome_connected, h, if_true, outcome_get, outcome_attempt]
  cases (w.capabilities s.world).field capability <;> rfl

theorem supports_running {fields : List (String × Json)} (h : w.isRunning s.world = true)
    (hc : w.capabilities s.world = .object fields) (capability : String) :
    outcome (supports w capability) s = (.ok (!lacks fields capability), s) := by
  rw [outcome_supports h, hc, lacks, Bool.not_not]
  rfl

theorem require_offline (h : w.isRunning s.world = false) {capabilities : List String}
    (hne : capabilities ≠ []) :
    outcome (require w capabilities) s = (.error (.unavailable .notConnected), s) := by
  cases capabilities with
  | nil => exact absurd rfl hne
  | cons capability rest => rw [require, outcome_bind, supports_offline h]

theorem require_lacking {fields : List (String × Json)} (h : w.isRunning s.world = true)
    (hc : w.capabilities s.world = .object fields) {capabilities : List String}
    {capability : String} (hl : capabilities.find? (lacks fields) = some capability) :
    outcome (require w capabilities) s = (.error (.unsupported capability), s) := by
  induction capabilities with
  | nil => simp at hl
  | cons first rest ih =>
      rw [require, outcome_bind, supports_running h hc]
      rw [List.find?_cons] at hl
      cases hf : lacks fields first with
      | true =>
          obtain rfl : first = capability := by simpa [hf] using hl
          rfl
      | false => exact ih (by simpa [hf] using hl)

theorem require_ok {capability : String}
    (h : outcome (require w [capability]) s = (.ok (), t)) :
    t = s ∧ w.isRunning s.world = true ∧
      ∃ fields, w.capabilities s.world = .object fields ∧ lacks fields capability = false := by
  obtain rfl : t = s := by simpa [h] using session_require w [capability] s
  cases hr : w.isRunning t.world with
  | false => simp [require_offline hr] at h
  | true =>
      refine ⟨rfl, rfl, ?_⟩
      rw [require, outcome_bind, outcome_supports hr] at h
      cases hc : w.capabilities t.world with
      | object fields =>
          refine ⟨fields, rfl, ?_⟩
          rw [lacks]
          cases hv : ((fields.lookup capability).getD .null).truthy with
          | true => rfl
          | false => simp [hc, Json.field, Except.map, hv] at h
      | _ => simp [hc, Json.field, Except.map] at h

theorem perform_gated (w : World σ) {o : Operation} (h : o.needs ≠ []) :
    ∃ rest, o.perform w = require w o.needs >>= rest := by
  cases o with
  | require capabilities => exact ⟨pure, (bind_pure _).symm⟩
  | typeAt | implementations | outline | buildAt | traceAt => exact ⟨_, rfl⟩
  | _ => exact absurd rfl h

structure Guarded (s : Session (σ × List Moment)) : Prop where
  sent : s.world.2.map Moment.sent = s.traffic
  passed : ∀ m ∈ s.world.2, m.Open

section Guarded

variable {s t : Session (σ × List Moment)}

theorem Guarded.congr (h : Guarded s) (hworld : t.world.2 = s.world.2)
    (htraffic : t.traffic = s.traffic) : Guarded t :=
  ⟨by rw [hworld, htraffic, h.sent], hworld ▸ h.passed⟩

theorem Guarded.concat {m : Moment} (h : Guarded s) (hm : m.Open)
    (hworld : t.world.2 = s.world.2 ++ [m]) (htraffic : t.traffic = s.traffic ++ [m.sent]) :
    Guarded t := by
  refine ⟨by rw [hworld, htraffic, List.map_append, h.sent]; rfl, ?_⟩
  rw [hworld]
  exact List.forall_mem_append.mpr ⟨h.passed, by simpa using hm⟩

theorem Guarded.bind {α β : Type} {x : Client (σ × List Moment) α}
    {f : α → Client (σ × List Moment) β} (hx : Guarded (outcome x s).2)
    (hf : ∀ a t, outcome x s = (.ok a, t) → Guarded t → Guarded (outcome (f a) t).2) :
    Guarded (outcome (x >>= f) s).2 := by
  rw [outcome_bind]
  rcases h : outcome x s with ⟨_ | a, t⟩
  · rwa [h] at hx
  · rw [h] at hx
    exact hf a t h hx

theorem Guarded.attempt {α : Type} (h : Guarded s) (r : Except Failure α) :
    Guarded (outcome (attempt r : Client (σ × List Moment) α) s).2 := by
  rwa [outcome_attempt]

theorem open_of_ungated {m : Moment} (h : gateOf m.sent.method = none) : m.Open := by
  intro capability hc
  rw [h] at hc
  cases hc

theorem Guarded.answers (h : Guarded s) (method : String) (params : Json)
    (hm : w.isRunning s.world.1 = true →
      (Moment.mk ⟨method, params⟩ true (w.capabilities s.world.1)).Open) :
    Guarded (outcome (answers (watching w) method params) s).2 := by
  cases hr : w.isRunning s.world.1 with
  | false => rwa [answers_offline (w := watching w) hr]
  | true =>
      obtain ⟨-, log, hs⟩ := answers_running (w := watching w) hr method params
      rw [hs]
      exact h.concat (hm hr) (by simp [asked, watching, hr]) rfl

theorem Guarded.gated {α : Type} (h : Guarded s) {method capability : String}
    (hg : gateOf method = some capability) (params : Json)
    {f : List Json → Client (σ × List Moment) α}
    (hf : ∀ found t, Guarded t → Guarded (outcome (f found) t).2) :
    Guarded (outcome (do
      require (watching w) [capability]
      f (← Client.answers (watching w) method params)) s).2 := by
  refine Guarded.bind (by rwa [session_require]) fun _ t ht _ => ?_
  obtain ⟨rfl, hr, hc⟩ := require_ok ht
  refine Guarded.bind (h.answers method params fun _ other ho => ?_) fun found u _ => hf found u
  obtain rfl : capability = other := Option.some.inj (hg.symm.trans ho)
  exact ⟨rfl, hc⟩

variable (w)

theorem Guarded.typeAt (h : Guarded s) {set : Settings} (hs : set.method ∈ Lookup.methods)
    (uri : Json) (p : Position) : Guarded (outcome (typeAt (watching w) set uri p) s).2 := by
  rw [typeAt_eq]
  refine h.gated (by rw [gateOf, if_pos hs]) _ fun found t ht => ?_
  cases found with
  | nil => exact ht
  | cons item rest => exact Guarded.bind (ht.attempt _) fun _ _ _ hu => hu

theorem Guarded.related (h : Guarded s) {method : String} (hm : gateOf method = none)
    (node : TypeNode) : Guarded (outcome (related (watching w) method node) s).2 := by
  rw [related_eq]
  refine Guarded.bind (h.answers method _ fun _ => open_of_ungated hm) fun _ t _ ht => ?_
  exact Guarded.bind (ht.attempt _) fun _ u _ hu => hu.congr rfl rfl

theorem Guarded.implementations (h : Guarded s) (uri : Json) (p : Position) :
    Guarded (outcome (implementations (watching w) uri p) s).2 := by
  have hg : gateOf implementationMethod = some implementationCapability := by decide
  rw [implementations_eq]
  exact h.gated hg _ fun _ _ ht => ht.attempt _

theorem Guarded.outline (h : Guarded s) (uri : Json) :
    Guarded (outcome (outline (watching w) uri) s).2 := by
  have hg : gateOf outlineMethod = some outlineCapability := by decide
  rw [outline_eq]
  exact h.gated hg _ fun _ _ ht => ht.attempt _

theorem Guarded.text (h : Guarded s) (uri : String) :
    Guarded (outcome (text (watching w) uri) s).2 := by
  cases hl : s.texts.lookup uri with
  | some known => rwa [outcome_text_known _ hl]
  | none =>
      rw [outcome_text_unknown _ hl]
      cases Document.pathOfUri uri with
      | error e => exact h
      | ok path => exact h.congr rfl rfl

theorem Guarded.announce (h : Guarded s) (uri language content : String) :
    Guarded (outcome (announce (watching w) uri language content) s).2 := by
  have hg : gateOf openMethod = none := by decide
  rw [outcome_announce]
  dsimp only
  split <;> exact h.concat (open_of_ungated hg) rfl rfl

theorem Guarded.ensureOpen (h : Guarded s) (uri : String) :
    Guarded (outcome (ensureOpen (watching w) uri) s).2 := by
  cases hl : s.texts.lookup uri with
  | some known => rwa [outcome_ensureOpen_known _ hl]
  | none =>
      rw [outcome_ensureOpen_unknown _ hl]
      cases Document.pathOfUri uri with
      | error e => exact h
      | ok path =>
          have hread : Guarded (afterReading (watching w) path s) := h.congr rfl rfl
          dsimp only
          split
          · exact hread
          · split
            · exact hread.announce w uri _ _
            · exact hread

theorem inTune_guarded : InTune (fun set => set.method ∈ Lookup.methods)
    (fun s t => s = t ∧ Guarded s) (watching w) (watching w) where
  note _ _ _ := agree_self fun _ hs => hs.congr rfl rfl
  supports _ := agree_self fun _ hs => by rwa [session_supports]
  typeAt _ hset uri p := agree_self fun _ hs => hs.typeAt w hset uri p
  supertypes node := agree_self fun _ hs => hs.related w (by decide) node
  subtypes node := agree_self fun _ hs => hs.related w (by decide) node
  implementations uri p := agree_self fun _ hs => hs.implementations w uri p
  outline uri := agree_self fun _ hs => hs.outline w uri
  text uri := agree_self fun _ hs => hs.text w uri
  ensureOpen uri := agree_self fun _ hs => hs.ensureOpen w uri
  absolute := rfl

theorem Guarded.play (h : Guarded s) (change : ι → σ → σ) {deeds : List (Deed ι)}
    (hd : ∀ o, .performs o ∈ deeds → o.Lawful fun set => set.method ∈ Lookup.methods) :
    Guarded (play (watching w) (unwatched change) deeds s).2 := by
  have houtside : ∀ i s t, s = t ∧ Guarded s →
      { s with world := unwatched change i s.world } =
          { t with world := unwatched change i t.world } ∧
        Guarded { s with world := unwatched change i s.world } := by
    rintro i s _ ⟨rfl, hs⟩
    exact ⟨rfl, hs.congr rfl rfl⟩
  exact ((inTune_guarded w).play houtside deeds hd ⟨rfl, h⟩).2.2

end Guarded

/-- An operation fails at once, and leaves everything as it is, where there is
no running server or where the server lacks what it needs; the failure names the
first capability lacking. And whatever a client does with lookups that settings
can have, nothing that has a gate is ever sent while the gate is shut. Watching
the messages changes nothing in a run. -/
theorem play_gated (w : World σ) (change : ι → σ → σ) :
    (∀ s (o : Operation), o.needs ≠ [] → w.isRunning s.world = false →
      outcome (o.perform w) s = (.error (.unavailable .notConnected), s)) ∧
    (∀ s (o : Operation) fields capability, w.isRunning s.world = true →
      w.capabilities s.world = .object fields → o.needs.find? (lacks fields) = some capability →
        outcome (o.perform w) s = (.error (.unsupported capability), s)) ∧
    ∀ a deeds, (∀ o, .performs o ∈ deeds → o.Lawful fun set => set.method ∈ Lookup.methods) →
      let plain := play w change deeds (.start a)
      let watched := play (watching w) (unwatched change) deeds (.start (a, []))
      watched.1 = plain.1 ∧ watched.2.world.1 = plain.2.world ∧
        watched.2.texts = plain.2.texts ∧
        watched.2.world.2.map Moment.sent = plain.2.traffic ∧ ∀ m ∈ watched.2.world.2, m.Open := by
  refine ⟨fun s o hne hr => ?_, fun s o fields capability hr hc hl => ?_, ?_⟩
  · obtain ⟨rest, ho⟩ := perform_gated w hne
    rw [ho, outcome_bind, require_offline hr hne]
  · obtain ⟨rest, ho⟩ := perform_gated w (o := o) (by rintro h; simp [h] at hl)
    rw [ho, outcome_bind, require_lacking hr hc hl]
  · intro a deeds hd plain watched
    have houtside : ∀ i s t, Beside (fun a (b : σ × List Moment) => a = b.1) s t →
        Beside (fun a b => a = b.1) { s with world := change i s.world }
          { t with world := unwatched change i t.world } :=
      fun i s t hst => ⟨congrArg (change i) hst.world, hst.texts, hst.traffic⟩
    have hstart : Beside (fun a (b : σ × List Moment) => a = b.1) (.start a) (.start (a, [])) :=
      ⟨rfl, rfl, rfl⟩
    obtain ⟨hanswers, hworld, htexts, htraffic⟩ :=
      (corresponds_watching w).companions.play houtside deeds hstart
    have hguarded : Guarded (.start (a, []) : Session (σ × List Moment)) :=
      ⟨rfl, fun _ hm => absurd hm List.not_mem_nil⟩
    have hlast : Guarded watched.2 := hguarded.play w change hd
    exact ⟨hanswers.symm, hworld.symm, htexts.symm, hlast.sent.trans htraffic.symm, hlast.passed⟩

/-- A server of which only the capabilities are known, and which is there while
it has any. -/
def capable : World (List (String × Json)) where
  isRunning fields := !fields.isEmpty
  capabilities := .object
  request _ _ a := ⟨.ok .null, [], a⟩
  notify _ _ a := ⟨.ok (), [], a⟩
  readFile _ a := (.ok [], a)
  absolute := .ok

/-- An outline, and another once the server can only look up types. -/
def twoOutlines : List (Deed (List (String × Json))) :=
  [.performs (.openDocument "file:///m"), .outside [(typeCapability, .bool true)],
    .performs (.openDocument "file:///m"), .performs (.typeAt .standard (.text "file:///m") ⟨0, 0⟩)]

theorem play_twoOutlines :
    outcome ((Operation.traceAt 5 "/m" ⟨0, 0⟩).perform capable) (.start []) =
        (.error (.unavailable .notConnected), .start []) ∧
      outcome ((Operation.traceAt 5 "/m" ⟨0, 0⟩).perform capable)
          (.start [(implementationCapability, .bool true), (outlineCapability, .null)]) =
        (.error (.unsupported outlineCapability),
          .start [(implementationCapability, .bool true), (outlineCapability, .null)]) ∧
      let watched := play (watching capable) (unwatched fun i _ => i) twoOutlines
        (.start ([(outlineCapability, .bool true)], []))
      (watched.2.world.2.map fun m => m.sent.method) =
          [openMethod, outlineMethod, Lookup.standardMethod] ∧
        ∀ m ∈ watched.2.world.2, m.Open := by
  obtain ⟨hoffline, hlacking, hrun⟩ := play_gated capable fun i _ => i
  refine ⟨hoffline _ _ (by decide) rfl, hlacking _ _ _ _ rfl rfl (by decide), by decide +kernel, ?_⟩
  refine (hrun _ twoOutlines fun o ho => ?_).2.2.2.2
  simp only [twoOutlines, List.mem_cons, Deed.performs.injEq, reduceCtorEq, List.not_mem_nil,
    or_false, false_or] at ho
  obtain rfl | rfl | rfl := ho
  · trivial
  · trivial
  · show Settings.standard.method ∈ Lookup.methods
    decide

end CodeAtlas.Client
