import CodeAtlas.Proofs.Hierarchy.Growth

namespace CodeAtlas

def Mode.leading (mode : Mode) : Side := if mode.goesUp then .above else .below

theorem Mode.follows_leading (mode : Mode) : mode.follows mode.leading = true := by
  cases mode <;> rfl

namespace Hierarchy

variable {identity : Identity} {mode : Mode}

def askedOn (side : Side) (queries : List Query) : List TypeNode :=
  (queries.filter fun q => q.side = side).map Query.node

theorem askedOn_append (side : Side) (xs ys : List Query) :
    askedOn side (xs ++ ys) = askedOn side xs ++ askedOn side ys := by
  simp [askedOn]

theorem askedOn_cons (side : Side) (q : Query) (rest : List Query) :
    askedOn side (q :: rest) = (if q.side = side then [q.node] else []) ++ askedOn side rest := by
  by_cases h : q.side = side <;> simp [askedOn, h]

/-- Nodes of the arena whose queries on a side are left to a task. -/
def Task.unasked (g : Growth) (side : Side) : Task → List TypeNode
  | .expand _ => (g.graph.nodes.drop g.visited.length).map Prod.snd
  | .follow other node _ => if other = side then [node] else []
  | .meet .. => []

theorem Growth.Settled.length_visited {g : Growth} (h : g.Settled) :
    g.visited.length = g.graph.nodes.length := by
  have hk : g.graph.keys.length = g.visited.reverse.length := congrArg List.length h
  simpa [TypeGraph.keys, TypeGraph.labels] using hk.symm

theorem Growth.Awaits.unasked {g : Growth} {label : Label} {node : TypeNode}
    (h : g.Awaits label node) (side : Side) : (Task.expand node).unasked g side = [node] := by
  obtain ⟨-, before, hn, hk⟩ := h
  have hl : g.visited.length = before.length := by simpa using (congrArg List.length hk).symm
  simp [Task.unasked, hn, hl]

theorem Growth.Settled.unasked_meet {g : Growth} (h : g.Settled) (label : Label) (node : TypeNode)
    (e : TypeEdge) (side : Side) : ∃ new,
      (g.meet label node e).graph.nodes = g.graph.nodes ++ new ∧
      (Task.expand node).unasked (g.meet label node e) side = new.map Prod.snd := by
  obtain ⟨new, hn⟩ := (g.extends_meet label node e).nodes
  refine ⟨new, hn.symm, ?_⟩
  have hv : (g.meet label node e).visited.length = g.graph.nodes.length := h.length_visited
  simp [Task.unasked, hv, ← hn]

/-- The queries of a task and the nodes it brings into the arena, side by
side: equal up to order, and equal on the leading side. -/
theorem Grows.order {task : Task} {g grown : Growth} {queries : List Query}
    (h : Grows identity mode task g queries grown) {side : Side}
    (hside : mode.follows side = true) :
    ∃ new, grown.graph.nodes = g.graph.nodes ++ new ∧
      (askedOn side queries).Perm (task.unasked g side ++ new.map Prod.snd) ∧
      (side = mode.leading → askedOn side queries = task.unasked g side ++ new.map Prod.snd) := by
  induction h with
  | known _ hs =>
      refine ⟨[], by simp, ?_⟩
      simp [askedOn, Task.unasked, hs.length_visited]
  | @skip other node label g hf _ =>
      have hne : other ≠ side := by rintro rfl; simp [hf] at hside
      exact ⟨[], by simp, by simp [askedOn, Task.unasked, hne]⟩
  | done => exact ⟨[], by simp, by simp [askedOn, Task.unasked]⟩
  | ask _ _ _ _ ih =>
      obtain ⟨new, hn, hp, he⟩ := ih
      refine ⟨new, hn, ?_, fun hl => ?_⟩
      · rw [askedOn_cons]
        exact List.Perm.append_left _ (by simpa [Task.unasked] using hp)
      · rw [askedOn_cons, he hl]
        simp [Task.unasked]
  | @next near label other g mid grown relative rest first later _ hs _ _ ihe ihm =>
      obtain ⟨met, hmet, hmet'⟩ := hs.unasked_meet other relative (near.edge label other) side
      obtain ⟨new, hn, hp, hq⟩ := ihe
      obtain ⟨new', hn', hp', hq'⟩ := ihm
      rw [hmet'] at hp hq
      refine ⟨met ++ new ++ new', by simp [hn', hn, hmet], ?_, fun hl => ?_⟩
      · rw [askedOn_append]
        simpa [Task.unasked] using hp.append hp'
      · rw [askedOn_append, hq hl, hq' hl]
        simp [Task.unasked]
  | @fresh node label g above grown up down _ hw hu hd ihu ihd =>
      obtain ⟨new, hn, hp, hq⟩ := ihu
      obtain ⟨new', hn', hp', hq'⟩ := ihd
      refine ⟨new ++ new', by simp [hn', hn, Growth.visit], ?_, fun hl => ?_⟩
      · rw [askedOn_append, hw.unasked]
        apply (hp.append hp').trans
        cases side
        · simp [Task.unasked]
        · simp [Task.unasked]
      · rw [askedOn_append, hq hl, hq' hl, hw.unasked]
        cases side
        · simp [Task.unasked]
        · -- Only a mode that does not go up leads below, so nothing new came from above.
          have hup : mode.goesUp = false := by simpa [Mode.leading] using hl
          cases hu with
          | skip =>
              obtain rfl : new = [] := by simpa [Growth.visit] using hn
              simp [Task.unasked]
          | ask hf => simp [Mode.follows, hup] at hf

theorem Grows.askedOn_seed {label : Label} {focus : Option Label} {root : TypeNode}
    {grown : Growth} {queries : List Query}
    (h : Grows identity mode (.expand root) (seed label focus root) queries grown) {side : Side}
    (hside : mode.follows side = true) :
    (askedOn side queries).Perm (grown.graph.nodes.map Prod.snd) ∧
      (side = mode.leading → askedOn side queries = grown.graph.nodes.map Prod.snd) := by
  obtain ⟨new, hn, hp⟩ := h.order hside
  rw [(awaits_seed label focus root).unasked] at hp
  simpa [hn] using hp

theorem Grows.follows {task : Task} {g grown : Growth} {queries : List Query}
    (h : Grows identity mode task g queries grown) : ∀ q ∈ queries, mode.follows q.side = true := by
  induction h with
  | known | skip | done => simp
  | fresh _ _ _ _ ihu ihd => exact List.forall_mem_append.mpr ⟨ihu, ihd⟩
  | ask hf _ _ _ ih => exact List.forall_mem_cons.mpr ⟨hf, ih⟩
  | next _ _ _ _ ihe ihm => exact List.forall_mem_append.mpr ⟨ihe, ihm⟩

end Hierarchy

end CodeAtlas
