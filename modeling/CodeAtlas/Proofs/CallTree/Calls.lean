import CodeAtlas.CallTree

namespace CodeAtlas.CallTree

theorem mem_callsBelow {caller : Name} {ts : List CallTree} {call : Name × Name} :
    call ∈ callsBelow caller ts ↔
      call ∈ (ts.map fun t => (caller, t.name)) ∨ call ∈ ts.flatMap calls := by
  induction ts with
  | nil => simp [callsBelow]
  | cons t rest ih =>
      simp only [callsBelow, List.cons_append, List.mem_cons, List.mem_append, ih, List.map_cons,
        List.flatMap_cons]
      grind

mutual

theorem names_eq : ∀ t : CallTree, t.names = t.name :: t.calls.map Prod.snd
  | .node caller children => by
      rw [names, calls, namesBelow_eq caller children]
      rfl

theorem namesBelow_eq (caller : Name) : ∀ ts : List CallTree,
    namesBelow ts = (callsBelow caller ts).map Prod.snd
  | [] => rfl
  | t :: rest => by
      rw [namesBelow, callsBelow, names_eq t, namesBelow_eq caller rest]
      simp

end

/-- The calls of trees side by side, under a caller or under none. -/
def callsFrom (caller : Option Name) (ts : List CallTree) : List (Name × Name) :=
  ts.flatMap fun t => caller.toList.map (fun c => (c, t.name)) ++ t.calls

theorem callsBelow_eq (caller : Name) (ts : List CallTree) :
    callsBelow caller ts = callsFrom (some caller) ts := by
  induction ts with
  | nil => rfl
  | cons t rest ih => rw [callsBelow, ih, callsFrom, callsFrom, List.flatMap_cons]; rfl

theorem callsFrom_singleton (caller : Option Name) (t : CallTree) :
    callsFrom caller [t] = caller.toList.map (fun c => (c, t.name)) ++ t.calls := by
  simp [callsFrom]

theorem callsFrom_append (caller : Option Name) (ts us : List CallTree) :
    callsFrom caller (ts ++ us) = callsFrom caller ts ++ callsFrom caller us :=
  List.flatMap_append

end CodeAtlas.CallTree
