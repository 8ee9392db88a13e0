import CodeAtlas.Proofs.Client.Outcome

namespace CodeAtlas.Client

variable {σ τ α β : Type} {R : Session σ → Session τ → Prop}

/-- From related sessions two computations give the same and leave related sessions. -/
def Agree (R : Session σ → Session τ → Prop) (x : Client σ α) (y : Client τ α) : Prop :=
  ∀ s t, R s t → (outcome x s).1 = (outcome y t).1 ∧ R (outcome x s).2 (outcome y t).2

theorem agree_pure (a : α) : Agree R (pure a) (pure a) := fun _ _ h => ⟨rfl, h⟩

theorem agree_throw (e : Failure) : Agree R (throw e : Client σ α) (throw e) :=
  fun _ _ h => ⟨rfl, h⟩

theorem agree_attempt (r : Except Failure α) : Agree R (attempt r) (attempt r) := by
  intro s t h
  rw [outcome_attempt, outcome_attempt]
  exact ⟨rfl, h⟩

theorem Agree.bind {x : Client σ α} {y : Client τ α} {f : α → Client σ β} {g : α → Client τ β}
    (hx : Agree R x y) (hf : ∀ a, Agree R (f a) (g a)) : Agree R (x >>= f) (y >>= g) := by
  intro s t h
  have hxy := hx s t h
  rw [outcome_bind, outcome_bind]
  rcases hs : outcome x s with ⟨r, s'⟩
  rcases ht : outcome y t with ⟨r', t'⟩
  rw [hs, ht] at hxy
  obtain ⟨rfl, hst⟩ : r = r' ∧ R s' t' := hxy
  cases r with
  | error e => exact ⟨rfl, hst⟩
  | ok a => exact hf a s' t' hst

theorem Agree.recover {x : Client σ α} {y : Client τ α} {f : Failure → Client σ α}
    {g : Failure → Client τ α} (hx : Agree R x y) (hf : ∀ e, Agree R (f e) (g e)) :
    Agree R (tryCatch x f) (tryCatch y g) := by
  intro s t h
  have hxy := hx s t h
  rw [outcome_tryCatch, outcome_tryCatch]
  rcases hs : outcome x s with ⟨r, s'⟩
  rcases ht : outcome y t with ⟨r', t'⟩
  rw [hs, ht] at hxy
  obtain ⟨rfl, hst⟩ : r = r' ∧ R s' t' := hxy
  cases r with
  | error e => exact hf e s' t' hst
  | ok a => exact ⟨rfl, hst⟩

theorem agree_ite {x x' : Client σ α} {y y' : Client τ α} (p : Prop) [Decidable p]
    (hx : Agree R x y) (hx' : Agree R x' y') :
    Agree R (if p then x else x') (if p then y else y') := by
  split
  · exact hx
  · exact hx'

theorem agree_foldlM {f : β → α → Client σ β} {g : β → α → Client τ β}
    (h : ∀ b a, Agree R (f b a) (g b a)) (xs : List α) (b : β) :
    Agree R (xs.foldlM f b) (xs.foldlM g b) := by
  induction xs generalizing b with
  | nil => exact agree_pure b
  | cons x rest ih =>
      rw [List.foldlM_cons, List.foldlM_cons]
      exact (h b x).bind ih

theorem agree_self {I : Session σ → Prop} {x : Client σ α}
    (h : ∀ s, I s → I (outcome x s).2) : Agree (fun s t => s = t ∧ I s) x x := by
  rintro s _ ⟨rfl, hs⟩
  exact ⟨rfl, rfl, h s hs⟩

variable (w : World σ)

def answers (method : String) (params : Json) : Client σ (List Json) :=
  objects <$> query w method params

theorem answers_bind {α : Type} (method : String) (params : Json) (f : List Json → Client σ α) :
    answers w method params >>= f = query w method params >>= fun reply => f (objects reply) :=
  bind_map_left ..

def locationsIn (items : List Json) : Except Failure (List Location) :=
  (items.mapM Location.ofJson?).map fun found => found.filterMap id

theorem locationsIn_cons (item : Json) (rest : List Json) :
    locationsIn (item :: rest) = do
      let place ← Location.ofJson? item
      let found ← locationsIn rest
      return place.toList ++ found := by
  rw [locationsIn, locationsIn, List.mapM_cons]
  rcases Location.ofJson? item with e | _ | place
  · rfl
  all_goals cases rest.mapM Location.ofJson? <;> rfl

theorem locationsIn_objects (items : List Json) :
    locationsIn (items.filter Json.isObject) = locationsIn items := by
  induction items with
  | nil => rfl
  | cons item rest ih =>
      rw [locationsIn_cons item rest, ← ih]
      cases item with
      | object fields => exact locationsIn_cons _ _
      | _ =>
          rw [List.filter_cons_of_neg (by simp [Json.isObject])]
          cases locationsIn (rest.filter Json.isObject) <;> rfl

theorem typeAt_eq (s : Settings) (uri : Json) (p : Position) :
    typeAt w s uri p = do
      require w [typeCapability]
      match ← answers w s.method (lookupParams s uri p) with
      | [] => return none
      | item :: _ => return some (← attempt (TypeNode.ofJson item)) := by
  unfold typeAt
  refine bind_congr fun _ => Eq.trans ?_ (answers_bind ..).symm
  rfl

theorem related_eq (method : String) (node : TypeNode) :
    related w method node = do
      let nodes ← attempt ((← answers w method (.object [("item", node.toJson)])).mapM
        TypeNode.ofJson)
      note .debug .client (relatedNote method node nodes.length)
      return nodes := by
  simp only [related, answers_bind]

theorem implementations_eq (uri : Json) (p : Position) :
    implementations w uri p = (do
      require w [implementationCapability]
      attempt (locationsIn (← answers w implementationMethod (.object (placeParams uri p))))) := by
  simp only [implementations, answers_bind, objects, locationsIn_objects]
  congr 1
  funext _
  congr 1
  funext reply
  rw [locationsIn]
  cases (entries reply).mapM Location.ofJson? <;> rfl

theorem outline_eq (uri : Json) :
    outline w uri = (do
      require w [outlineCapability]
      attempt ((← answers w outlineMethod
        (.object [("textDocument", .object [("uri", uri)])])).mapM Symbol.ofJson)) := by
  simp only [outline, answers_bind]

/-- Worlds in which the single operations of two clients agree, lookups as far
as their settings are allowed. What is put together from them agrees then too. -/
structure InTune (allowed : Settings → Prop) (R : Session σ → Session τ → Prop) (w : World σ)
    (v : World τ) : Prop where
  note : ∀ level speaker message, Agree R (note level speaker message) (note level speaker message)
  supports : ∀ capability, Agree R (supports w capability) (supports v capability)
  typeAt : ∀ s, allowed s → ∀ uri p, Agree R (typeAt w s uri p) (typeAt v s uri p)
  supertypes : ∀ node, Agree R (supertypes w node) (supertypes v node)
  subtypes : ∀ node, Agree R (subtypes w node) (subtypes v node)
  implementations : ∀ uri p, Agree R (implementations w uri p) (implementations v uri p)
  outline : ∀ uri, Agree R (outline w uri) (outline v uri)
  text : ∀ uri, Agree R (text w uri) (text v uri)
  ensureOpen : ∀ uri, Agree R (ensureOpen w uri) (ensureOpen v uri)
  absolute : w.absolute = v.absolute

/-- Worlds in which the queries of two clients agree, whatever is asked, and so
do the texts of documents. -/
structure Companions (R : Session σ → Session τ → Prop) (w : World σ) (v : World τ) : Prop where
  note : ∀ level speaker message, Agree R (note level speaker message) (note level speaker message)
  supports : ∀ capability, Agree R (supports w capability) (supports v capability)
  answers : ∀ method params, Agree R (answers w method params) (answers v method params)
  text : ∀ uri, Agree R (text w uri) (text v uri)
  ensureOpen : ∀ uri, Agree R (ensureOpen w uri) (ensureOpen v uri)
  absolute : w.absolute = v.absolute

variable {w} {v : World τ}

theorem agree_require (h : ∀ capability, Agree R (supports w capability) (supports v capability))
    (capabilities : List String) : Agree R (require w capabilities) (require v capabilities) := by
  induction capabilities with
  | nil => exact agree_pure ()
  | cons capability rest ih =>
      refine (h capability).bind fun b => ?_
      cases b with
      | false => exact (agree_throw _).bind fun _ => ih
      | true => exact ih

namespace Companions

variable (h : Companions R w v)
include h

theorem typeAt (s : Settings) (uri : Json) (p : Position) :
    Agree R (typeAt w s uri p) (typeAt v s uri p) := by
  rw [typeAt_eq, typeAt_eq]
  refine (agree_require h.supports _).bind fun _ => (h.answers _ _).bind fun found => ?_
  cases found with
  | nil => exact agree_pure none
  | cons item rest => exact (agree_attempt _).bind fun _ => agree_pure _

theorem related (method : String) (node : TypeNode) :
    Agree R (related w method node) (related v method node) := by
  rw [related_eq, related_eq]
  exact (h.answers _ _).bind fun _ => (agree_attempt _).bind fun _ =>
    (h.note _ _ _).bind fun _ => agree_pure _

theorem implementations (uri : Json) (p : Position) :
    Agree R (implementations w uri p) (implementations v uri p) := by
  rw [implementations_eq, implementations_eq]
  exact (agree_require h.supports _).bind fun _ => (h.answers _ _).bind fun _ => agree_attempt _

theorem outline (uri : Json) : Agree R (outline w uri) (outline v uri) := by
  rw [outline_eq, outline_eq]
  exact (agree_require h.supports _).bind fun _ => (h.answers _ _).bind fun _ => agree_attempt _

theorem inTune : InTune (fun _ => True) R w v where
  note := h.note
  supports := h.supports
  typeAt s _ := h.typeAt s
  supertypes := h.related supertypesMethod
  subtypes := h.related subtypesMethod
  implementations := h.implementations
  outline := h.outline
  text := h.text
  ensureOpen := h.ensureOpen
  absolute := h.absolute

end Companions

namespace InTune

variable {allowed : Settings → Prop} (h : InTune allowed R w v)
include h

theorem require (capabilities : List String) :
    Agree R (require w capabilities) (require v capabilities) := agree_require h.supports capabilities

theorem readText (uri : String) (range : Option Range) :
    Agree R (readText w uri range) (readText v uri range) :=
  (h.text uri).bind fun _ => (agree_attempt _).bind fun _ => agree_pure _

theorem openDocument (uri : String) : Agree R (openDocument w uri) (openDocument v uri) :=
  (h.ensureOpen uri).bind fun _ => (h.outline _).bind fun _ => agree_pure _

end InTune

end CodeAtlas.Client
