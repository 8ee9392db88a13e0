import CodeAtlas.Hierarchy
import CodeAtlas.Proofs.Client.Outcome

namespace CodeAtlas

open Client

inductive Side
  | above
  | below
  deriving DecidableEq

def Side.method : Side → String
  | .above => supertypesMethod
  | .below => subtypesMethod

theorem Side.method_injective {side side' : Side} (h : side.method = side'.method) :
    side = side' := by
  cases side <;> cases side' <;> first | rfl | exact absurd h (by decide)

def Side.asks (side : Side) (node : TypeNode) : Sent := ⟨side.method, .object [("item", node.toJson)]⟩

/-- From a node's label and that of a relative on this side of it. -/
def Side.edge : Side → Label → Label → TypeEdge
  | .above, label, other => ⟨other, label⟩
  | .below, label, other => ⟨label, other⟩

def Mode.follows (mode : Mode) : Side → Bool
  | .above => mode.goesUp
  | .below => mode.goesDown

namespace Hierarchy

variable {σ : Type} {w : World σ}

structure Query where
  side : Side
  node : TypeNode
  found : List TypeNode

def Query.sent (q : Query) : Sent := q.side.asks q.node

inductive Dialogue (w : World σ) : Session σ → List Query → Session σ → Prop
  | nil (s : Session σ) : Dialogue w s [] s
  | cons {s t u : Session σ} {q : Query} {rest : List Query}
      (first : outcome (related w q.side.method q.node) s = (.ok q.found, t))
      (later : Dialogue w t rest u) : Dialogue w s (q :: rest) u

theorem Dialogue.append {s t u : Session σ} {xs ys : List Query} (h : Dialogue w s xs t)
    (h' : Dialogue w t ys u) : Dialogue w s (xs ++ ys) u := by
  induction h with
  | nil => exact h'
  | cons first _ ih => exact .cons first (ih h')

theorem related_ok {side : Side} {node : TypeNode} {found : List TypeNode} {s t : Session σ}
    (h : outcome (related w side.method node) s = (.ok found, t)) :
    t.traffic = s.traffic ++ [(Query.mk side node found).sent] ∧ t.texts = s.texts := by
  obtain ⟨reply, u, hq, h⟩ := outcome_bind_ok.mp h
  obtain ⟨nodes, v, hn, h⟩ := outcome_bind_ok.mp h
  simp only [outcome_attempt, Prod.mk.injEq] at hn
  obtain ⟨-, rfl⟩ := hn
  simp only [outcome_bind, outcome_note, outcome_pure, Prod.mk.injEq] at h
  obtain ⟨-, rfl⟩ := h
  obtain ⟨ht, hx, -⟩ := query_ok w hq
  exact ⟨ht, hx⟩

theorem Dialogue.traffic {s t : Session σ} {queries : List Query} (h : Dialogue w s queries t) :
    t.traffic = s.traffic ++ queries.map Query.sent := by
  induction h with
  | nil => simp
  | cons first _ ih => rw [ih, (related_ok first).1]; simp

end Hierarchy

end CodeAtlas
