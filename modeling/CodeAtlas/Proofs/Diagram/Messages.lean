import CodeAtlas.Diagram
import CodeAtlas.Proofs.Listing.Firsts

namespace CodeAtlas.Diagram

theorem distinct_firstMet {α : Type} [BEq α] [LawfulBEq α] (entries : List α) :
    FirstMet entries (distinct entries) := by
  have hstep : (fun kept a => if List.contains kept a then kept else kept ++ [a]) =
      keepFirst (id : α → α) := by
    funext kept a
    rw [keepFirst, List.contains_eq_any_beq]
    simp only [id_eq, BEq.comm (a := a)]
  have hmet := (Firsts.of_foldl id entries).met
  rwa [List.map_id, List.map_id, ← hstep] at hmet

theorem distinctCalls_firsts (calls : List (Name × Name)) :
    Firsts arrowKey calls (distinctCalls calls) := Firsts.of_foldl arrowKey calls

/-- The participants are the names of a tree, each once. Of the calls with one
arrow the first has a message, so all calls have one exactly if different
calls have different arrows. -/
theorem ofCalls_firsts (tree : CallTree) : ∃ participants messages,
    ofCalls tree = joinLines (participants.map participantLine ++ messages.map messageLine) ∧
    FirstMet tree.names participants ∧ Firsts arrowKey tree.calls messages ∧
    (FirstMet tree.calls messages ↔
      ∀ c ∈ tree.calls, ∀ d ∈ tree.calls, arrowKey c = arrowKey d → c = d) := by
  have hfirsts := distinctCalls_firsts tree.calls
  exact ⟨_, _, rfl, distinct_firstMet tree.names, hfirsts, hfirsts.firstMet_iff⟩

def ambiguousTree : CallTree := .node "a" [.leaf "b->c", .node "a->b" [.leaf "c"]]

/-- Of two different calls whose arrows read the same only one has a message. -/
theorem ambiguous_call_unwritten :
    (.ofString "a->b", .ofString "c") ∈ ambiguousTree.calls ∧
    (.ofString "a->b", .ofString "c") ∉ distinctCalls ambiguousTree.calls ∧
    ofCalls ambiguousTree = joinLines ["participant a", "participant b->c", "participant a->b",
      "participant c", "a->>b->c: call", "a->>a->b: call"] := by
  decide +kernel

end CodeAtlas.Diagram
