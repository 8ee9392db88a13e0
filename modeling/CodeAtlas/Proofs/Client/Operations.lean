import CodeAtlas.CallTrace
import CodeAtlas.Hierarchy
import CodeAtlas.Proofs.Client.Agreement

namespace CodeAtlas.Client

variable {σ τ ι : Type} {R : Session σ → Session τ → Prop} {w : World σ} {v : World τ}
variable {allowed : Settings → Prop}

namespace InTune

variable (h : InTune allowed R w v)
include h

theorem expand (identity : Identity) (mode : Mode) (bound : Nat) (node : TypeNode)
    (growth : Hierarchy.Growth) :
    Agree R (Hierarchy.expand w identity mode bound node growth)
      (Hierarchy.expand v identity mode bound node growth) := by
  induction bound generalizing node growth with
  | zero => exact agree_throw _
  | succ bound ih =>
      -- the relatives of one kind are walked in turn, each by the hypothesis
      have each (edge : Label → TypeEdge) (found : List TypeNode) (growth : Hierarchy.Growth) :=
        agree_foldlM (fun growth relative => (agree_attempt (identity relative)).bind fun other =>
          ih relative (growth.meet other relative (edge other))) found growth
      have down (label : Label) (above : Hierarchy.Growth) := agree_ite (mode.goesDown = true)
        ((h.subtypes node).bind fun found =>
          each (fun other => ⟨label, other⟩) found above) (agree_pure above)
      refine (agree_attempt _).bind fun label => agree_ite _ (agree_pure _) ?_
      refine agree_ite _ ?_ ((agree_pure _).bind (down label))
      exact (h.supertypes node).bind fun found =>
        (each (fun other => ⟨other, label⟩) found _).bind (down label)

theorem build (identity : Identity) (bound : Nat) (node : TypeNode) (mode : Mode)
    (focus : Option Label) :
    Agree R (Hierarchy.build w identity bound node mode focus)
      (Hierarchy.build v identity bound node mode focus) :=
  (agree_attempt _).bind fun _ => (h.expand identity mode bound _ _).bind fun _ =>
    (h.note _ _ _).bind fun _ => agree_pure _

theorem parentsOf (node : TypeNode) :
    Agree R (Hierarchy.parentsOf w node) (Hierarchy.parentsOf v node) := by
  unfold Hierarchy.parentsOf
  split
  · exact agree_pure _
  · exact h.supertypes node

theorem climb (identity : Identity) (bound : Nat) (seen : List Label.Key) (node : TypeNode) :
    Agree R (Hierarchy.climb w identity bound seen node)
      (Hierarchy.climb v identity bound seen node) := by
  induction bound generalizing seen node with
  | zero => exact agree_throw _
  | succ bound ih =>
      refine (h.parentsOf node).bind fun parents => ?_
      cases parents with
      | nil => exact agree_pure node
      | cons parent rest =>
          exact (agree_attempt _).bind fun label =>
            agree_ite _ ((h.note _ _ _).bind fun _ => agree_pure node) (ih _ parent)

theorem climbToRoot (identity : Identity) (bound : Nat) (node : TypeNode) :
    Agree R (Hierarchy.climbToRoot w identity bound node)
      (Hierarchy.climbToRoot v identity bound node) :=
  (agree_attempt _).bind fun _ => h.climb identity bound _ node

theorem buildAt (identity : Identity) {s : Settings} (hs : allowed s) (bound : Nat)
    (file : String) (p : Position) (mode : Mode) (fromRoot : Bool) :
    Agree R (Hierarchy.buildAt w identity s bound file p mode fromRoot)
      (Hierarchy.buildAt v identity s bound file p mode fromRoot) := by
  unfold Hierarchy.buildAt
  rw [h.absolute]
  refine (h.require _).bind fun _ => (agree_attempt _).bind fun path =>
    (h.ensureOpen _).bind fun _ => (h.typeAt s hs _ p).bind fun found => ?_
  have finish (item start : TypeNode) := (agree_attempt (identity item)).bind fun focus =>
    (h.build identity bound start mode (some focus)).bind fun graph => agree_pure (some graph)
  cases found with
  | none => exact (agree_attempt _).bind fun _ => (h.note _ _ _).bind fun _ => agree_pure none
  | some item =>
      cases fromRoot with
      | true => exact (h.climbToRoot identity bound item).bind (finish item)
      | false => exact (agree_pure item).bind (finish item)

theorem openAt (l : Location) : Agree R (CallTrace.openAt w l) (CallTrace.openAt v l) := by
  refine Agree.recover ?_ fun e => ?_
  · exact (agree_attempt _).bind fun _ => (h.openDocument _).bind fun _ => agree_pure _
  · split
    · exact (h.note _ _ _).bind fun _ => agree_pure none
    · exact agree_throw e

theorem targetFor (l : Location) : Agree R (CallTrace.targetFor w l) (CallTrace.targetFor v l) := by
  refine (h.openAt l).bind fun found => ?_
  cases found with
  | none => exact agree_pure none
  | some document =>
      dsimp only
      split
      · exact agree_pure none
      · exact (agree_attempt _).bind fun _ => agree_pure _

theorem firstTarget (locations : List Location) :
    Agree R (CallTrace.firstTarget w locations) (CallTrace.firstTarget v locations) := by
  induction locations with
  | nil => exact agree_pure none
  | cons l rest ih =>
      refine (h.targetFor l).bind fun found => ?_
      cases found with
      | none => exact ih
      | some target => exact agree_pure _

theorem resolve (target : CallTarget) (p : Position) (site : CallSite) :
    Agree R (CallTrace.resolve w target p site) (CallTrace.resolve v target p site) := by
  have unresolved (reason : String) :=
    (h.note .debug .calls (CallTrace.unresolvedNote target.name reason site)).bind
      fun _ => agree_pure (none : Option CallTarget)
  refine (h.implementations _ p).bind fun locations => agree_ite _ (unresolved _) ?_
  refine (h.firstTarget locations).bind fun found => ?_
  cases found with
  | none => exact unresolved _
  | some callee => exact agree_pure _

theorem trace (levels : Nat) (target : CallTarget) (visited : List Name) :
    Agree R (CallTrace.trace w levels target visited) (CallTrace.trace v levels target visited) := by
  induction levels generalizing target visited with
  | zero => exact agree_pure _
  | succ levels ih =>
      refine agree_ite _ (agree_pure _) ?_
      refine (h.readText _ _).bind fun body => (agree_foldlM (fun done site => ?_) _ _).bind
        fun _ => agree_pure _
      refine (h.resolve _ _ site).bind fun found => ?_
      cases found with
      | none => exact agree_pure _
      | some callee => exact (ih callee _).bind fun _ => agree_pure _

theorem traceAt (maxDepth : Int) (file : String) (p : Position) :
    Agree R (CallTrace.traceAt w maxDepth file p) (CallTrace.traceAt v maxDepth file p) := by
  unfold CallTrace.traceAt
  rw [h.absolute]
  refine (h.require _).bind fun _ => (agree_attempt _).bind fun path =>
    (h.targetFor _).bind fun found => ?_
  cases found with
  | none => exact (agree_attempt _).bind fun _ => (h.note _ _ _).bind fun _ => agree_pure none
  | some root => exact (h.trace _ root []).bind fun _ => agree_pure _

end InTune

/-- Identities and bounds belong to a search, so each call brings its own. -/
inductive Operation
  | supports (capability : String)
  | require (capabilities : List String)
  | typeAt (s : Settings) (uri : Json) (p : Position)
  | supertypes (node : TypeNode)
  | subtypes (node : TypeNode)
  | implementations (uri : Json) (p : Position)
  | outline (uri : Json)
  | readText (uri : String) (range : Option Range)
  | ensureOpen (uri : String)
  | openDocument (uri : String)
  | climbToRoot (identity : Identity) (bound : Nat) (node : TypeNode)
  | build (identity : Identity) (bound : Nat) (node : TypeNode) (mode : Mode)
      (focus : Option Label)
  | buildAt (identity : Identity) (s : Settings) (bound : Nat) (file : String) (p : Position)
      (mode : Mode) (fromRoot : Bool)
  | targetFor (l : Location)
  | trace (levels : Nat) (target : CallTarget) (visited : List Name)
  | traceAt (maxDepth : Int) (file : String) (p : Position)

namespace Operation

def Result : Operation → Type
  | supports _ => Bool
  | require _ => Unit
  | typeAt .. => Option TypeNode
  | supertypes _ => List TypeNode
  | subtypes _ => List TypeNode
  | implementations .. => List Location
  | outline _ => List Symbol
  | readText .. => String
  | ensureOpen _ => String
  | openDocument _ => OpenDocument
  | climbToRoot .. => TypeNode
  | build .. => TypeGraph
  | buildAt .. => Option TypeGraph
  | targetFor _ => Option CallTarget
  | trace .. => CallTree × List Name
  | traceAt .. => Option CallTree

def perform (w : World σ) : (o : Operation) → Client σ o.Result
  | supports capability => Client.supports w capability
  | require capabilities => Client.require w capabilities
  | typeAt s uri p => Client.typeAt w s uri p
  | supertypes node => Client.supertypes w node
  | subtypes node => Client.subtypes w node
  | implementations uri p => Client.implementations w uri p
  | outline uri => Client.outline w uri
  | readText uri range => Client.readText w uri range
  | ensureOpen uri => Client.ensureOpen w uri
  | openDocument uri => Client.openDocument w uri
  | climbToRoot identity bound node => Hierarchy.climbToRoot w identity bound node
  | build identity bound node mode focus => Hierarchy.build w identity bound node mode focus
  | buildAt identity s bound file p mode fromRoot =>
    Hierarchy.buildAt w identity s bound file p mode fromRoot
  | targetFor l => CallTrace.targetFor w l
  | trace levels target visited => CallTrace.trace w levels target visited
  | traceAt maxDepth file p => CallTrace.traceAt w maxDepth file p

/-- The settings that a lookup goes by are allowed. -/
def Lawful (allowed : Settings → Prop) : Operation → Prop
  | typeAt s _ _ | buildAt _ s _ _ _ _ _ => allowed s
  | _ => True

end Operation

theorem InTune.perform (h : InTune allowed R w v) (o : Operation) (ho : o.Lawful allowed) :
    Agree R (o.perform w) (o.perform v) := by
  cases o with
  | supports capability => exact h.supports capability
  | require capabilities => exact h.require capabilities
  | typeAt s uri p => exact h.typeAt s ho uri p
  | supertypes node => exact h.supertypes node
  | subtypes node => exact h.subtypes node
  | implementations uri p => exact h.implementations uri p
  | outline uri => exact h.outline uri
  | readText uri range => exact h.readText uri range
  | ensureOpen uri => exact h.ensureOpen uri
  | openDocument uri => exact h.openDocument uri
  | climbToRoot identity bound node => exact h.climbToRoot identity bound node
  | build identity bound node mode focus => exact h.build identity bound node mode focus
  | buildAt identity s bound file p mode fromRoot =>
      exact h.buildAt identity ho bound file p mode fromRoot
  | targetFor l => exact h.targetFor l
  | trace levels target visited => exact h.trace levels target visited
  | traceAt maxDepth file p => exact h.traceAt maxDepth file p

/-- An operation of the client, or a change of the world that it has no part in. -/
inductive Deed (ι : Type)
  | performs (o : Operation)
  | outside (i : ι)

structure Answer where
  operation : Operation
  result : Except Failure operation.Result

/-- The answers to a sequence of deeds, and the session after it. -/
def play (w : World σ) (change : ι → σ → σ) : List (Deed ι) → Session σ → List Answer × Session σ
  | [], s => ([], s)
  | .performs o :: rest, s =>
    let (result, t) := outcome (o.perform w) s
    let (answers, u) := play w change rest t
    (⟨o, result⟩ :: answers, u)
  | .outside i :: rest, s => play w change rest { s with world := change i s.world }

theorem play_performs (change : ι → σ → σ) (o : Operation) (rest : List (Deed ι)) (s : Session σ) :
    (play w change (.performs o :: rest) s).1 =
      ⟨o, (outcome (o.perform w) s).1⟩ ::
        (play w change rest (outcome (o.perform w) s).2).1 := rfl

theorem InTune.play {change : ι → σ → σ} {change' : ι → τ → τ} (h : InTune allowed R w v)
    (hc : ∀ i s t, R s t →
      R { s with world := change i s.world } { t with world := change' i t.world })
    (deeds : List (Deed ι)) (hd : ∀ o, .performs o ∈ deeds → o.Lawful allowed) {s : Session σ}
    {t : Session τ} (hst : R s t) :
    (play w change deeds s).1 = (play v change' deeds t).1 ∧
      R (play w change deeds s).2 (play v change' deeds t).2 := by
  induction deeds generalizing s t with
  | nil => exact ⟨rfl, hst⟩
  | cons deed rest ih =>
      have hrest : ∀ o, .performs o ∈ rest → o.Lawful allowed :=
        fun o ho => hd o (List.mem_cons_of_mem _ ho)
      cases deed with
      | performs o =>
          obtain ⟨hresult, hkept⟩ := h.perform o (hd o List.mem_cons_self) s t hst
          obtain ⟨hanswers, hlast⟩ := ih hrest hkept
          refine ⟨?_, hlast⟩
          rw [play_performs, play_performs, hresult, hanswers]
      | outside i => exact ih hrest (hc i s t hst)

theorem Operation.lawful_all (o : Operation) : o.Lawful fun _ => True := by
  cases o <;> trivial

theorem Companions.play {change : ι → σ → σ} {change' : ι → τ → τ} (h : Companions R w v)
    (hc : ∀ i s t, R s t →
      R { s with world := change i s.world } { t with world := change' i t.world })
    (deeds : List (Deed ι)) {s : Session σ} {t : Session τ} (hst : R s t) :
    (play w change deeds s).1 = (play v change' deeds t).1 ∧
      R (play w change deeds s).2 (play v change' deeds t).2 :=
  h.inTune.play hc deeds (fun o _ => o.lawful_all) hst

end CodeAtlas.Client
