import CodeAtlas.Proofs.Client.Opening
import CodeAtlas.Proofs.Symbol.Flat

namespace CodeAtlas.Client

variable {σ α β : Type}

theorem ext_outcome {x y : Client σ α} (h : ∀ s, outcome x s = outcome y s) : x = y := funext h

theorem tryCatch_map (f : α → β) (x : Client σ α) (recover : Failure → Client σ α) :
    tryCatch (f <$> x) (fun e => f <$> recover e) = f <$> tryCatch x recover := by
  apply ext_outcome
  intro s
  rw [outcome_map, outcome_tryCatch, outcome_tryCatch, outcome_map]
  rcases outcome x s with ⟨e | a, t⟩
  · exact outcome_map f _ t
  · rfl

def askedUri (params : Json) : Json :=
  ((params.get? "textDocument").bind (Json.get? "uri")).getD .null

def flatReply (params reply : Json) : Json :=
  match (objects reply).mapM Symbol.ofJson with
  | .ok symbols => .list ((Symbol.walk symbols).map (Symbol.toFlatJson (askedUri params)))
  | .error _ => reply

variable (w : World σ)

def flattened : World σ :=
  { w with request := fun method params state =>
      let turn := w.request method params state
      if method = outlineMethod then { turn with result := turn.result.map (flatReply params) }
      else turn }

theorem named_of_mapM {items : List Json} {symbols : List Symbol}
    (h : items.mapM Symbol.ofJson = .ok symbols) : ∀ s ∈ symbols, Symbol.Named s := by
  intro s hs
  obtain ⟨item, -, hitem⟩ := mem_of_mapM h s hs
  exact Symbol.named_of_ofJson hitem

theorem mapM_flatReply (params reply : Json) :
    (objects (flatReply params reply)).mapM Symbol.ofJson =
      ((objects reply).mapM Symbol.ofJson).map Symbol.flatOutline := by
  unfold flatReply
  cases h : (objects reply).mapM Symbol.ofJson with
  | error e => exact h
  | ok symbols =>
      simp only [objects_list fun e (_ : e ∈ Symbol.walk symbols) =>
        (rfl : (Symbol.toFlatJson (askedUri params) e).isObject = true)]
      refine mapM_map_ok fun e he => ?_
      obtain ⟨hn, ha⟩ := Symbol.named_of_mem_walk (named_of_mapM h) he
      exact Symbol.ofJson_toFlatJson _ hn ha

theorem request_flattened (params : Json) (state : σ) :
    (flattened w).request outlineMethod params state =
      { w.request outlineMethod params state with
        result := (w.request outlineMethod params state).result.map (flatReply params) } := by
  simp [flattened]

/-- Two servers that differ in their outlines at most. Where the first gives
one, the second gives what reads as the flat outline of the same symbols. -/
structure GivesFlat (w w' : World σ) : Prop where
  rest : w' = { w with request := w'.request }
  outlines : ∀ params state, ∃ retell : Json → Json,
    w'.request outlineMethod params state =
      { w.request outlineMethod params state with
        result := (w.request outlineMethod params state).result.map retell } ∧
    ∀ reply, (w.request outlineMethod params state).result = .ok reply →
      (objects (retell reply)).mapM Symbol.ofJson =
        ((objects reply).mapM Symbol.ofJson).map Symbol.flatOutline

theorem givesFlat_flattened : GivesFlat w (flattened w) :=
  ⟨rfl, fun params state => ⟨flatReply params, request_flattened w params state,
    fun reply _ => mapM_flatReply params reply⟩⟩

variable {w} {w' : World σ}

theorem exchange_flat (hw : GivesFlat w w') (params : Json) (s : Session σ) :
    ∃ retell : Json → Json,
      outcome (exchange w' outlineMethod params) s =
        outcome (retell <$> exchange w outlineMethod params) s ∧
      ∀ reply t, outcome (exchange w outlineMethod params) s = (.ok reply, t) →
        (objects (retell reply)).mapM Symbol.ofJson =
          ((objects reply).mapM Symbol.ofJson).map Symbol.flatOutline := by
  obtain ⟨retell, hrequest, hread⟩ := hw.outlines params s.world
  have hrunning : w'.isRunning s.world = w.isRunning s.world := by rw [hw.rest]
  have hasked : asked w' outlineMethod params s = asked w outlineMethod params s := by
    rw [asked, hrequest]
    rfl
  refine ⟨retell, ?_, fun reply t h => hread reply ?_⟩
  · rw [outcome_map, outcome_exchange, outcome_exchange, hasked, hrequest, hrunning]
    split <;> rfl
  · rw [outcome_exchange] at h
    split at h
    · exact congrArg Prod.fst h
    · cases h

theorem outline_flat (hw : GivesFlat w w') (uri : Json) :
    outline w' uri = Symbol.flatOutline <$> outline w uri := by
  apply ext_outcome
  intro s
  have hgate : require w' [outlineCapability] = require w [outlineCapability] := by
    rw [hw.rest]
    rfl
  rw [outline, outline, hgate, map_bind]
  apply outcome_bind_congr rfl
  intro _ t _
  obtain ⟨retell, hexchange, hread⟩ :=
    exchange_flat hw (.object [("textDocument", .object [("uri", uri)])]) t
  rw [map_bind, outcome_bind, outcome_bind, query, query, outcome_tryCatch, outcome_tryCatch,
    hexchange, outcome_map]
  rcases h : outcome (exchange w outlineMethod _) t with ⟨e | reply, u⟩
  · -- A rejected request counts as an empty outline, which is flat already.
    cases e <;> rfl
  · simp [outcome_map, hread reply u h, Except.map]

def flatDocument (document : OpenDocument) : OpenDocument :=
  { document with symbols := Symbol.flatOutline document.symbols }

theorem openDocument_flat (hw : GivesFlat w w') (uri : String) :
    openDocument w' uri = flatDocument <$> openDocument w uri := by
  have hopen : ensureOpen w' uri = ensureOpen w uri := by
    rw [hw.rest]
    rfl
  simp [openDocument, hopen, outline_flat hw, flatDocument]

end CodeAtlas.Client
