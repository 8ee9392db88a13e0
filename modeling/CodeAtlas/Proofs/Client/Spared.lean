import CodeAtlas.Proofs.Client.NormalForm

namespace CodeAtlas

def Spared {α : Type} (r : Except Failure α) : Prop := ∀ fault, r ≠ .error (.file fault)

variable {α β : Type}

theorem spared_ok (a : α) : Spared (.ok a) := by
  rintro fault ⟨⟩

theorem spared_error {e : Failure} (h : e.isFile = false) :
    Spared (.error e : Except Failure α) := by
  rintro fault ⟨⟩
  cases h

theorem Spared.isFile {e : Failure} (h : Spared (.error e : Except Failure α)) :
    e.isFile = false := by
  cases e with
  | file fault => exact absurd rfl (h fault)
  | _ => rfl

theorem Spared.bind {x : Except Failure α} {f : α → Except Failure β} (hx : Spared x)
    (hf : ∀ a, Spared (f a)) : Spared (x >>= f) := by
  cases x with
  | error e => exact spared_error hx.isFile
  | ok a => exact hf a

theorem Spared.map {x : Except Failure α} (hx : Spared x) (f : α → β) : Spared (x.map f) := by
  cases x with
  | error e => exact spared_error hx.isFile
  | ok a => exact spared_ok (f a)

theorem spared_mapM {f : α → Except Failure β} (hf : ∀ a, Spared (f a)) (xs : List α) :
    Spared (xs.mapM f) := by
  induction xs with
  | nil => exact spared_ok []
  | cons x rest ih =>
      rw [List.mapM_cons]
      exact (hf x).bind fun b => ih.bind fun bs => spared_ok (b :: bs)

theorem spared_field (key : String) (j : Json) : Spared (j.field key) := by
  cases j with
  | object fields => exact spared_ok _
  | _ => exact spared_error rfl

theorem spared_toInteger (j : Json) : Spared j.toInteger := by
  cases j with
  | real x =>
      simp only [Json.toInteger]
      split
      · exact spared_ok _
      · split <;> exact spared_error rfl
  | text s =>
      simp only [Json.toInteger]
      cases Text.Numeral.readInteger s.toList <;> first | exact spared_ok _ | exact spared_error rfl
  | unpaired points =>
      simp only [Json.toInteger]
      cases Text.Numeral.readInteger (points.map Text.Units.character) <;>
        first | exact spared_ok _ | exact spared_error rfl
  | bool | int => exact spared_ok _
  | null | list | object => exact spared_error rfl

theorem spared_coordinate (key : String) (j : Json) : Spared (Position.coordinate key j) := by
  refine (spared_field key j).bind fun found => ?_
  cases found with
  | none => exact spared_ok 0
  | some v => exact spared_toInteger v

theorem spared_position (j : Json) : Spared (Position.ofJson j) :=
  (spared_coordinate _ j).bind fun _ => (spared_coordinate _ j).bind fun _ => spared_ok _

theorem spared_endOf (key : String) (j : Json) : Spared (Range.endOf key j) := by
  refine (spared_field key j).bind fun found => ?_
  cases found with
  | none => exact spared_ok _
  | some v =>
      dsimp only
      split
      · exact spared_position v
      · exact spared_ok _

theorem spared_range (j : Json) : Spared (Range.ofJson j) := by
  unfold Range.ofJson
  split
  · exact (spared_endOf _ j).bind fun _ => (spared_endOf _ j).bind fun _ => spared_ok _
  · exact spared_ok _

theorem spared_location (j : Json) : Spared (Location.ofJson? j) := by
  cases j with
  | object fields =>
      simp only [Location.ofJson?]
      split
      · exact (spared_range _).bind fun _ => spared_ok _
      · exact (spared_range _).bind fun _ => spared_ok _
      · exact spared_ok _
  | _ => exact spared_ok _

theorem spared_toText (p : Position) : Spared p.toText := by
  have written (n : Int) : Spared (writtenInteger n) := by
    unfold writtenInteger
    split
    · exact spared_error rfl
    · exact spared_ok _
  exact (written _).bind fun _ => (written _).bind fun _ => spared_ok _

namespace Document

theorem spared_offsetOf (text : List Char) (p : Position) : Spared (offsetOf text p) := by
  simp only [offsetOf]
  split
  · exact spared_ok _
  · split
    · exact spared_error rfl
    · exact spared_ok _

theorem spared_slice (text : List Char) (range : Option Range) : Spared (slice text range) := by
  cases range with
  | none => exact spared_ok text
  | some r =>
      exact (spared_offsetOf text r.start).bind fun _ =>
        (spared_offsetOf text r.stop).bind fun _ => spared_ok _

theorem spared_checkName (name : List Char) : Spared (Host.checkName name) := by
  unfold Host.checkName
  repeat' split
  all_goals first | exact spared_ok _ | exact spared_error rfl

theorem spared_checkBracketed (host : List Char) : Spared (Host.checkBracketed host) := by
  simp only [Host.checkBracketed]
  split
  · exact spared_checkName _
  · split
    · exact spared_error rfl
    · exact spared_checkName _

theorem spared_check (host : List Char) : Spared (Host.check host) := by
  unfold Host.check
  split
  · exact spared_checkBracketed host
  · exact spared_ok ()
  · exact spared_error rfl

theorem spared_checkConfusables (host : List Char) : Spared (checkConfusables host) := by
  unfold checkConfusables
  split
  · exact spared_error rfl
  · exact spared_ok ()

theorem spared_parse (text : List Char) : Spared (Address.parse text) :=
  (spared_check _).bind fun _ => (spared_checkConfusables _).bind fun _ => spared_ok _

theorem spared_stemOfUri (uri : String) : Spared (stemOfUri uri) :=
  (spared_parse _).bind fun _ => spared_ok _

end Document

theorem Symbol.spared_qualifiedName (s : Symbol) (ancestors : List Symbol)
    {fileStem : Except Failure String} (h : Spared fileStem) :
    Spared (s.qualifiedName ancestors fileStem) := by
  simp only [Symbol.qualifiedName]
  split
  · exact spared_ok _
  · split
    · exact spared_ok _
    · exact h.map _

namespace Client

variable {σ : Type}

/-- As long as something lasts of the world, whatever it is asked to do, no
request for implementations fails as a file does. -/
structure Served (I : σ → Prop) (w : World σ) : Prop where
  request : ∀ method params a, I a → I (w.request method params a).world
  notify : ∀ method params a, I a → I (w.notify method params a).world
  readFile : ∀ path a, I a → I (w.readFile path a).2
  spared : ∀ params a, I a → Spared (w.request implementationMethod params a).result

variable {I : σ → Prop} {w : World σ} {s : Session σ}

theorem Served.corresponds (h : Served I w) : Corresponds (fun a b => a = b ∧ I a) w w where
  isRunning _ _ hab := hab.1 ▸ rfl
  capabilities _ _ hab := hab.1 ▸ rfl
  request method params _ _ hab := hab.1 ▸ ⟨rfl, rfl, h.request method params _ hab.2⟩
  notify method params _ _ hab := hab.1 ▸ ⟨rfl, rfl, h.notify method params _ hab.2⟩
  readFile path _ _ hab := hab.1 ▸ ⟨rfl, rfl, h.readFile path _ hab.2⟩
  absolute := rfl

theorem Served.inTune (h : Served I w) :
    InTune (fun _ => True) (Beside fun a b => a = b ∧ I a) w w := h.corresponds.companions.inTune

theorem lasts {x : Client σ α} (hx : Agree (Beside fun a b => a = b ∧ I a) x x)
    (hs : I s.world) {r : Except Failure α} {t : Session σ} (h : outcome x s = (r, t)) :
    I t.world := by
  have hkept := (hx s s ⟨⟨rfl, hs⟩, rfl, rfl⟩).2.world.2
  rwa [h] at hkept

theorem spared_bind {x : Client σ α} {f : α → Client σ β} (hx : Spared (outcome x s).1)
    (hf : ∀ a t, outcome x s = (.ok a, t) → Spared (outcome (f a) t).1) :
    Spared (outcome (x >>= f) s).1 := by
  rw [outcome_bind]
  rcases h : outcome x s with ⟨e | a, t⟩
  · rw [h] at hx
    exact spared_error hx.isFile
  · exact hf a t h

theorem spared_tryCatch {x : Client σ α} {f : Failure → Client σ α}
    (hf : ∀ e t, outcome x s = (.error e, t) → Spared (outcome (f e) t).1) :
    Spared (outcome (tryCatch x f) s).1 := by
  rw [outcome_tryCatch]
  rcases h : outcome x s with ⟨e | a, t⟩
  · exact hf e t h
  · exact spared_ok a

theorem spared_attempt {r : Except Failure α} (hr : Spared r) (s : Session σ) :
    Spared (outcome (attempt r) s).1 := by rwa [outcome_attempt]

variable (w) in
theorem spared_require (capabilities : List String) (s : Session σ) :
    Spared (outcome (require w capabilities) s).1 := by
  induction capabilities generalizing s with
  | nil => exact spared_ok ()
  | cons capability rest ih =>
      refine spared_bind ?_ fun b t _ => ?_
      · refine spared_bind ?_ fun _ t _ => spared_bind (spared_ok t) fun _ u _ =>
          spared_bind (spared_attempt (spared_field _ _) u) fun _ _ _ => spared_ok _
        rw [outcome_connected]
        split
        · exact spared_ok ()
        · exact spared_error rfl
      · cases b with
        | false => exact spared_error rfl
        | true => exact ih t

theorem spared_exchange {method : String} {params : Json}
    (h : Spared (w.request method params s.world).result) :
    Spared (outcome (exchange w method params) s).1 := by
  rw [outcome_exchange]
  split
  · exact h
  · exact spared_error rfl

theorem spared_query {method : String} {params : Json}
    (h : Spared (w.request method params s.world).result) :
    Spared (outcome (query w method params) s).1 := by
  refine spared_tryCatch fun e t he => ?_
  have hfile := spared_exchange h
  rw [he] at hfile
  cases e with
  | rejected => exact spared_ok _
  | _ => exact hfile

theorem spared_implementations (h : Served I w) (hs : I s.world) (uri : Json) (p : Position) :
    Spared (outcome (implementations w uri p) s).1 := by
  refine spared_bind (spared_require w _ s) fun _ t ht => ?_
  refine spared_bind ?_ fun reply u _ => ?_
  · have hworld : I t.world := lasts (h.inTune.require _) hs ht
    exact spared_query (h.spared _ _ hworld)
  · refine spared_bind (spared_attempt (spared_mapM spared_location _) u) fun _ _ _ => spared_ok _

end Client

end CodeAtlas
