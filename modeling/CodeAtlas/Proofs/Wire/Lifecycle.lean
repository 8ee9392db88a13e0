import CodeAtlas.Proofs.Wire.Callers
import CodeAtlas.Proofs.Wire.Courses
import CodeAtlas.Scripted.Rules

namespace CodeAtlas.Wire.Connection

open Relation (ReflTransGen)

/-- What a caller goes by, as far as the newest process has come. With
nothing under way a process may have got anywhere. -/
inductive Fits : Standing → Connection → Prop
  | idle {s c} (h : c.posture = (false, [])) : Fits s c
  | greeting {c ticket id value} (h : c.posture = (false, [⟨ticket, .initializing id value⟩])) :
      Fits (.greeting ⟨ticket, .initializing id value⟩) c
  | serving {c} (h : c.posture = (true, [])) : Fits .serving c
  | calling {c ticket id method} (h : c.posture = (true, [⟨ticket, .calling id method⟩])) :
      Fits .serving c
  | closing {c ticket id process ending}
      (h : c.posture = (true, [⟨ticket, .shuttingDown id process ending⟩])) :
      Fits (.leaving ⟨ticket, .shuttingDown id process ending⟩) c
  | leaving {c ticket process ending} (h : c.posture = (true, [⟨ticket, .leaving process ending⟩])) :
      Fits .done c

variable {b : Behaviour} {c₀ c d : Connection} {s s' : Standing} {ticket : Nat}
  {account later life : List Incident} {i : Incident}

/-- Every process has lived in order; the newest one stands here. -/
structure Lived (s : Standing) (lives : List (List Incident)) : Prop where
  newest : ∀ life ∈ lives.head?, Life life s
  older : ∀ life ∈ lives.tail, ∃ s', Life life s'

theorem Lived.mem {lives : List (List Incident)} (h : Lived s lives) (hlife : life ∈ lives) :
    ∃ s', Life life s' := by
  cases lives with
  | nil => simp at hlife
  | cons newest older =>
      obtain rfl | hlife := List.mem_cons.mp hlife
      · exact ⟨s, h.newest life rfl⟩
      · exact h.older life hlife

theorem Lived.launched (h : Lived s (lives account)) :
    Lived .unmet (lives (account ++ [.launched])) := by
  rw [lives_append_launched]
  refine ⟨fun life hlife => ?_, fun life hlife => h.mem hlife⟩
  obtain rfl := Option.some.inj hlife
  exact .born

theorem Lived.append (h : Lived s (lives account)) (hl : .launched ∉ later)
    (hnext : ∀ {life}, Life life s → Life (life ++ later) s') : Lived s' (lives (account ++ later)) := by
  rw [lives_append account hl]
  cases hlives : lives account with
  | nil => exact ⟨by simp, by simp⟩
  | cons newest older =>
      rw [hlives] at h
      refine ⟨fun life hlife => ?_, h.older⟩
      obtain rfl := Option.some.inj hlife
      exact hnext (h.newest newest rfl)

theorem Incident.isAside_of_isQuiet (h : i.isQuiet = true) : i.isAside = true := by
  cases i <;> simp_all [isQuiet, isAside]

theorem Life.quiet (h : Life life s) (hq : ∀ i ∈ later, i.isQuiet = true) : Life (life ++ later) s := by
  induction later generalizing life with
  | nil => simpa using h
  | cons i later ih =>
      obtain ⟨hi, hlater⟩ := List.forall_mem_cons.mp hq
      rw [List.append_cons]
      exact ih (h.bides (Incident.isAside_of_isQuiet hi)) hlater

/-- A connection some moves after the first one. -/
def Stands (b : Behaviour) (c₀ : Connection) (s : Standing) (c : Connection) : Prop :=
  ∃ account, Moves b c₀ account c ∧ Lived s (lives account)

theorem Stands.quietly (h : Stands b c₀ s c) (hq : Quietly b c d) : Stands b c₀ s d := by
  obtain ⟨account, hm, hlived⟩ := h
  obtain ⟨later, hl, hquiet⟩ := hq
  refine ⟨account ++ later, hm.trans hl, hlived.append (fun hmem => ?_) fun h => h.quiet hquiet⟩
  exact (Incident.free_of_isQuiet (hquiet _ hmem)).1 rfl

theorem Stands.move (h : Stands b c₀ s c) (hm : Move b c [i] d) (hi : i ≠ .launched)
    (hnext : ∀ {life}, Life life s → Life (life ++ [i]) s') : Stands b c₀ s' d := by
  obtain ⟨account, hmoves, hlived⟩ := h
  exact ⟨account ++ [i], hmoves.tail hm, hlived.append (by simpa using Ne.symm hi) hnext⟩

theorem Stands.launched (h : Stands b c₀ s c) (hm : Move b c [.launched] d) :
    Stands b c₀ .unmet d := by
  obtain ⟨account, hmoves, hlived⟩ := h
  exact ⟨account ++ [.launched], hmoves.tail hm, hlived.launched⟩

theorem Fits.of_posture (h : Fits s c) (hp : d.posture = c.posture) : Fits s d := by
  cases h with
  | idle h => exact .idle (hp.trans h)
  | greeting h => exact .greeting (hp.trans h)
  | serving h => exact .serving (hp.trans h)
  | calling h => exact .calling (hp.trans h)
  | closing h => exact .closing (hp.trans h)
  | leaving h => exact .leaving (hp.trans h)

def Keeps (b : Behaviour) (c₀ c : Connection) : Prop := ∃ s, Stands b c₀ s c ∧ Fits s c

theorem Keeps.quietly (h : Keeps b c₀ c) (hq : Quietly b c d) (hp : d.posture = c.posture) :
    Keeps b c₀ d := by
  obtain ⟨s, hs, hf⟩ := h
  exact ⟨s, hs.quietly hq, hf.of_posture hp⟩

theorem Stands.finishStop (h : Stands b c₀ s c) (ht : c.tasks = []) (ticket process : Nat)
    (ending : Ending) : Keeps b c₀ (finishStop ticket process ending c) :=
  ⟨s, h.quietly (quietly_finishStop ..), .idle (by rw [posture_finishStop, ht])⟩

theorem Stands.finishUnclean (h : Stands b c₀ s c) (ht : c.tasks = []) (ticket process : Nat)
    (e : Failure) (ending : Ending) : Keeps b c₀ (finishUnclean ticket process e ending c) :=
  ⟨s, h.quietly (quietly_finishUnclean ..), .idle (by rw [posture_finishUnclean, ht])⟩

theorem Stands.beginStop_unready (h : Stands b c₀ s c) (hp : c.posture = (false, [])) (ticket : Nat)
    (ending : Ending) : Keeps b c₀ (beginStop b ticket ending c) := by
  obtain ⟨hi, ht⟩ := posture_eq.mp hp
  rw [beginStop_of_uninitialized hi]
  split
  · exact ⟨s, h.quietly (quietly_report ..), .idle hp⟩
  · exact h.finishStop ht ..

theorem Stands.expire (h : Stands b c₀ s c) (hf : Fits s c) {t : Task} (ht : t ∈ c.tasks)
    (htimed : t.stage.isTimed = true) : Keeps b c₀ (expire t c) := by
  cases hf with
  | idle hp | serving hp => simp [posture_tasks hp] at ht
  | greeting hp | calling hp =>
      obtain rfl : t = _ := by simpa [posture_tasks hp] using ht
      simp [Stage.isTimed] at htimed
  | closing hp =>
      obtain rfl : t = _ := by simpa [posture_tasks hp] using ht
      exact (h.move (.drops ht rfl htimed) (by simp) .overdue).finishUnclean
        (posture_tasks (posture_dropTask hp)) ..
  | leaving hp =>
      obtain rfl : t = _ := by simpa [posture_tasks hp] using ht
      exact (h.move (.seesEnd ht rfl) (by simp) fun h => h.bides rfl).finishUnclean
        (posture_tasks (posture_dropTask hp)) ..

theorem Stands.beginStop (h : Stands b c₀ .serving c) (hp : c.posture = (true, [])) (ticket : Nat)
    (ending : Ending) : Keeps b c₀ (beginStop b ticket ending c) := by
  have ht := posture_tasks hp
  unfold Connection.beginStop
  split
  next => exact ⟨.serving, h.quietly (quietly_report ..), .serving hp⟩
  next process _ =>
    split
    next => exact h.finishStop ht ..
    next =>
      split
      next => exact h.finishUnclean ht ..
      next =>
        split
        next e after hsend =>
          have hafter : after.tasks = [] := posture_tasks ((posture_send hsend).trans hp)
          exact (h.quietly (quietly_askedInVain hsend)).finishUnclean hafter ..
        next id after hsend =>
          let t : Task := ⟨ticket, .shuttingDown id process ending⟩
          have hasks : Stands b c₀ (.leaving t) (after.wait t.ticket t.stage) :=
            h.move (.asks hsend rfl (isWaiting_of_posture hp _)) nofun .asksToLeave
          have hwaits : (after.wait t.ticket t.stage).posture = (true, [t]) :=
            posture_wait ((posture_send hsend).trans hp) ..
          simp only
          split
          -- no time is given at all, so the deadline passes right after the request
          next =>
            have hread : (drainAll b (after.wait t.ticket t.stage)).posture = (true, [t]) :=
              (posture_drainAll _).trans hwaits
            exact (hasks.quietly (quietly_drainAll _)).expire (.closing hread)
              (posture_tasks hread ▸ List.mem_singleton_self t) rfl
          next => exact ⟨_, hasks, .closing hwaits⟩

theorem Stands.onInitialized (h : Stands b c₀ .greeted c) (hp : c.posture = (false, []))
    (ticket : Nat) (value : Json) {reply : Except Failure Json} {result : Json}
    (hr : reply.bind (resultOf "initialize") = .ok result) :
    Keeps b c₀ (onInitialized b ticket value reply c) := by
  unfold Connection.onInitialized
  rw [hr]
  simp only
  split
  next e after hadopt =>
    exact (h.quietly (quietly_adopt hadopt).1).beginStop_unready ((posture_adopt hadopt).trans hp) ..
  next adopted hadopt =>
    have hadopted : Stands b c₀ .greeted adopted := h.quietly (quietly_adopt hadopt).1
    have hposture : adopted.posture = (false, []) := (posture_adopt hadopt).trans hp
    split
    next e after htell =>
      obtain rfl := write_error htell
      exact hadopted.beginStop_unready hposture ..
    next after htell =>
      have htold : Stands b c₀ .serving after := hadopted.move (.tells htell) nofun .announces
      have hafter : after.tasks = [] := posture_tasks ((posture_write htell).trans hposture)
      exact ⟨.serving, htold.quietly (quietly_becomeReady ..),
        .serving (by rw [posture_becomeReady, hafter])⟩

theorem Stands.askToExit (h : Stands b c₀ .excused c) (hp : c.posture = (true, []))
    (ticket process : Nat) (ending : Ending) : Keeps b c₀ (askToExit b ticket process ending c) := by
  unfold Connection.askToExit
  split
  next e after htell =>
    obtain rfl := write_error htell
    exact h.finishUnclean (posture_tasks hp) ..
  next after htell =>
    have htold : Stands b c₀ .done after := h.move (.tells htell) nofun .exits
    have hafter : after.posture = (true, []) := (posture_write htell).trans hp
    refine ⟨.done, htold.move (.awaitsEnd after ticket process ending
      (isWaiting_of_posture hafter _)) nofun fun h => h.bides rfl, .leaving (posture_wait hafter ..)⟩

theorem Stands.resume (h : Stands b c₀ s c) (hf : Fits s c) {id : Nat} {reply : Except Failure Json}
    {rest : List (Nat × Except Failure Json)} (hreplies : c.replies = (id, reply) :: rest) {t : Task}
    (ht : t ∈ c.tasks) (ha : t.stage.awaits id = true) :
    Keeps b c₀ (resume b t reply (({ c with replies := rest } : Connection).dropTask t.ticket)) := by
  obtain ⟨method, hq⟩ := Stage.awaits_iff.mp ha
  have hcompletes := Move.completes (b := b) hreplies ht hq
  -- what the caller goes by leaves one task that can have asked
  cases hf with
  | idle hp | serving hp => simp [posture_tasks hp] at ht
  | @greeting _ ticket n value hp =>
      obtain rfl : t = _ := by simpa [posture_tasks hp] using ht
      obtain ⟨rfl, rfl⟩ : n = id ∧ "initialize" = method := by simpa [Stage.question?] using hq
      have hdone := posture_dropTask (c := { c with replies := rest }) hp
      simp only [Connection.resume]
      cases hr : reply.bind (resultOf "initialize") with
      | error e =>
          rw [hr] at hcompletes
          rw [Connection.onInitialized, hr]
          exact (h.move hcompletes (by simp) fun h => h.rejected e).beginStop_unready hdone ..
      | ok result =>
          rw [hr] at hcompletes
          exact (h.move hcompletes (by simp) fun h => h.accepted result).onInitialized hdone ticket value hr
  | @calling _ ticket n m hp =>
      obtain rfl : t = _ := by simpa [posture_tasks hp] using ht
      obtain ⟨rfl, rfl⟩ : n = id ∧ m = method := by simpa [Stage.question?] using hq
      have hdone := posture_dropTask (c := { c with replies := rest }) hp
      exact ⟨.serving, h.move hcompletes (by simp) fun h => h.replied _, .serving hdone⟩
  | @closing _ ticket n process ending hp =>
      obtain rfl : t = _ := by simpa [posture_tasks hp] using ht
      obtain ⟨rfl, rfl⟩ : n = id ∧ "shutdown" = method := by simpa [Stage.question?] using hq
      have hdone := posture_dropTask (c := { c with replies := rest }) hp
      simp only [Connection.resume]
      cases hr : reply.bind (resultOf "shutdown") with
      | error e =>
          rw [hr] at hcompletes
          exact (h.move hcompletes (by simp) fun h => h.refused e).finishUnclean (posture_tasks hdone) ..
      | ok result =>
          rw [hr] at hcompletes
          exact (h.move hcompletes (by simp) fun h => h.agreed result).askToExit hdone ..
  | leaving hp =>
      obtain rfl : t = _ := by simpa [posture_tasks hp] using ht
      simp [Stage.awaits] at ha

theorem Keeps.advance (h : Keeps b c₀ c) (hd : advance? b c = some d) : Keeps b c₀ d := by
  obtain ⟨s, hs, hf⟩ := h
  unfold advance? at hd
  split at hd
  next id reply rest hreplies =>
    simp only at hd
    split at hd
    next hnone =>
      obtain rfl := Option.some.inj hd
      have hn : ∀ t ∈ c.tasks, t.stage.awaits id = false := by simpa using hnone
      exact ⟨s, hs.quietly ((Move.discards hreplies hn).quietly (by simp)), hf.of_posture rfl⟩
    next t hsome =>
      obtain rfl := Option.some.inj hd
      exact hs.resume hf hreplies (List.mem_of_find?_eq_some hsome) (by simpa using List.find?_some hsome)
  next =>
    obtain ⟨t, hsome, rfl⟩ := Option.map_eq_some_iff.mp hd
    have ht : t ∈ c.tasks := List.mem_of_find?_eq_some hsome
    have hleft : c.hasLeft t.stage = true := by simpa using List.find?_some hsome
    cases hf with
    | idle hp | serving hp => simp [posture_tasks hp] at ht
    | greeting hp | calling hp | closing hp =>
        obtain rfl : t = _ := by simpa [posture_tasks hp] using ht
        simp [hasLeft] at hleft
    | leaving hp =>
        obtain rfl : t = _ := by simpa [posture_tasks hp] using ht
        exact (hs.move (.seesEnd ht rfl) (by simp) fun h => h.bides rfl).finishStop
          (posture_tasks (posture_dropTask hp)) ..

theorem Keeps.happens (h : Keeps b c₀ c) (hd : Happens b c d) : Keeps b c₀ d := by
  cases hd with
  | listens hd =>
      obtain ⟨hq, hp, -⟩ := hd.quietly
      exact h.quietly hq hp
  | goesOn hd => exact h.advance hd
  | expires ht htimed =>
      obtain ⟨s, hs, hf⟩ := h
      exact hs.expire hf ht htimed

theorem Stands.beginStart (h : Stands b c₀ s c) (hp : c.posture = (false, [])) (ticket : Nat)
    (value : Json) : Keeps b c₀ (beginStart b ticket value c) := by
  unfold Connection.beginStart
  split
  next => exact ⟨s, h.quietly (quietly_report ..), .idle hp⟩
  next hlaunch =>
    have hborn := (h.launched (.launches c hlaunch)).quietly
      (quietly_note .debug (startedNote c.command b.processId) _)
    simp only
    split
    next e after hsend =>
      exact (hborn.quietly (quietly_askedInVain hsend)).beginStop_unready
        ((posture_send hsend).trans hp) ..
    next id after hsend =>
      have hasks : Stands b c₀ _ (after.wait ticket (.initializing id value)) :=
        hborn.move (.asks (t := ⟨ticket, .initializing id value⟩) hsend rfl
          (isWaiting_of_posture hp _)) nofun fun h => h.greets _
      exact ⟨_, hasks, .greeting (posture_wait ((posture_send hsend).trans hp) ..)⟩

theorem Keeps.beginRequest (h : Keeps b c₀ c) (hidle : c.tasks = []) (ticket : Nat) (method : String)
    (params : Json) : Keeps b c₀ (beginRequest b ticket method params c) := by
  unfold Connection.beginRequest
  split
  next => exact h.quietly (quietly_report ..) rfl
  next hrunning =>
    have hi : c.initialized = true := by
      by_contra hi
      simp [isRunning_of_uninitialized (Bool.eq_false_iff.mpr hi)] at hrunning
    have hp : c.posture = (true, []) := posture_eq.mpr ⟨hi, hidle⟩
    split
    next e after hsend =>
      exact (h.quietly (quietly_askedInVain hsend) (posture_send hsend)).quietly (quietly_report ..) rfl
    next id after hsend =>
      obtain ⟨s, hs, hf⟩ := h
      cases hf with
      | serving hp =>
          have hasks : Stands b c₀ .serving (after.wait ticket (.calling id method)) :=
            hs.move (.asks (t := ⟨ticket, .calling id method⟩) hsend rfl
              (isWaiting_of_posture hp _)) nofun fun h => h.calls _
          exact ⟨_, hasks, .calling (posture_wait ((posture_send hsend).trans hp) ..)⟩
      | idle hp' | greeting hp' | calling hp' | closing hp' | leaving hp' => simp [hp] at hp'

theorem Keeps.beginStop (h : Keeps b c₀ c) (hidle : c.tasks = []) (ticket : Nat) (ending : Ending) :
    Keeps b c₀ (beginStop b ticket ending c) := by
  obtain ⟨s, hs, hf⟩ := h
  cases hf with
  | idle hp => exact hs.beginStop_unready hp ..
  | serving hp => exact hs.beginStop hp ..
  | greeting hp | calling hp | closing hp | leaving hp => simp [posture_tasks hp] at hidle

theorem Keeps.alone (h : Keeps b c₀ c) (hd : Alone b c d) : Keeps b c₀ d := by
  cases hd with
  | happens hd => exact h.happens hd
  | starts ticket value hidle hstopped =>
      obtain ⟨s, hs, -⟩ := h
      exact hs.beginStart (posture_eq.mpr ⟨hstopped, hidle⟩) ..
  | requests ticket method params hidle => exact h.beginRequest hidle ..
  | stops ticket hidle => exact h.beginStop hidle ..

theorem Keeps.reached (h : Keeps b c₀ c) (hd : ReflTransGen (Alone b) c d) : Keeps b c₀ d := by
  induction hd with
  | refl => exact h
  | tail _ last ih => exact ih.alone last

theorem keeps_fresh {command : List String} {root : Path} {timeout : Seconds} {ownId : Nat}
    (h : fresh command root timeout ownId = .ok c) : Keeps b c c := by
  obtain rfl := fresh_ok h
  exact ⟨.unmet, ⟨[], .refl, by simp [lives], by simp [lives]⟩, .idle rfl⟩

/-- What one caller's processes are sent, and hear, is in the order of the
protocol. This goes for all that can happen between and during its calls,
and so for each of its runs. -/
theorem lifecycle_in_order {command : List String} {root : Path} {timeout : Seconds} {ownId : Nat}
    {c₀ : Connection} (b : Behaviour) (h : fresh command root timeout ownId = .ok c₀) :
    (∀ events, isSequential b c₀ events = true → ReflTransGen (Alone b) c₀ (run b c₀ events)) ∧
    ∀ c, ReflTransGen (Alone b) c₀ c → ∃ account, Moves b c₀ account c ∧
      c.received = (lives account).map (List.filterMap Incident.written?) ∧
      ∀ life ∈ lives account, Orderly life := by
  refine ⟨fun events hevents => alone_run hevents, fun c hc => ?_⟩
  obtain ⟨s, ⟨account, hm, hlived⟩, -⟩ := (keeps_fresh h).reached hc
  have hbare : c₀.processes = [] ∧ Newest c₀ := by
    obtain rfl := fresh_ok h
    exact ⟨rfl, nofun⟩
  refine ⟨account, hm, hm.received hbare.1 hbare.2, fun life hlife => ?_⟩
  obtain ⟨s', hs'⟩ := hlived.mem hlife
  exact hs'.orderly (hm.tracked (.start h)) (infix_of_mem_lives hlife)

/-- The first process agrees to everything, the next one refuses to serve. -/
def moody : Behaviour where
  launch _ _ := .ok ()
  react i _ message := Scripted.reactTo (if i = 0 then agreeable else [refusal]) message
  processId := 2
where
  agreeable : List Scripted.Rule :=
    [⟨.text "initialize", none, [.reply (.object [])]⟩, ⟨.text "a", none, [.reply (.int 20)]⟩,
      ⟨.text "shutdown", none, [.reply .null]⟩, ⟨.text "exit", none, [.exit 0, .close]⟩]
  refusal : Scripted.Rule :=
    ⟨.text "initialize", none, [.replyError (.object [("code", .int 3)])]⟩

def twoLives : List Event :=
  [.start 0 (.int 7), .request 1 "a" .null, .stop 2, .request 3 "b" .null, .start 4 .null,
    .request 5 "c" .null]

theorem lifecycle_in_order_twoLives :
    fresh ["server"] ⟨.root, []⟩ (.whole 5) 1 = .ok sampleStart ∧
    isSequential moody sampleStart twoLives = true ∧
    ∃ account, Moves moody sampleStart account (run moody sampleStart twoLives) ∧
      (run moody sampleStart twoLives).received =
        (lives account).map (List.filterMap Incident.written?) ∧
      (∀ life ∈ lives account, Orderly life) ∧
      ((run moody sampleStart twoLives).received.map
        (List.map fun m => ((m.get? "method").getD .null).display)) =
        [["initialize"], ["initialize", "initialized", "a", "shutdown", "exit"]] := by
  have hstart : fresh ["server"] ⟨.root, []⟩ (.whole 5) 1 = .ok sampleStart := rfl
  have hsequential : isSequential moody sampleStart twoLives = true := by decide +kernel
  obtain ⟨hruns, horderly⟩ := lifecycle_in_order moody hstart
  obtain ⟨account, hm, hreceived, hlives⟩ := horderly _ (hruns twoLives hsequential)
  exact ⟨hstart, hsequential, account, hm, hreceived, hlives, by decide +kernel⟩

end CodeAtlas.Wire.Connection
