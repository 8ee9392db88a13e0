import CodeAtlas.Proofs.Hierarchy.Dialogue
import CodeAtlas.Proofs.TypeGraph.Arena

namespace CodeAtlas.Hierarchy

open Client

namespace Growth

def visit (g : Growth) (label : Label) : Growth := { g with visited := label.key :: g.visited }

/-- Every node of the arena was expanded, in the order of the arena. -/
def Settled (g : Growth) : Prop := g.graph.keys = g.visited.reverse

/-- The last node of the arena, and it alone, is still to be expanded. -/
def Awaits (g : Growth) (label : Label) (node : TypeNode) : Prop :=
  label.key ∉ g.visited ∧ ∃ before, g.graph.nodes = before ++ [(label, node)] ∧
    (before.map fun entry => entry.1.key) = g.visited.reverse

def Ready (g : Growth) (label : Label) (node : TypeNode) : Prop :=
  label.key ∈ g.visited ∧ g.Settled ∨ g.Awaits label node

theorem Awaits.mem {g : Growth} {label : Label} {node : TypeNode} (h : g.Awaits label node) :
    (label, node) ∈ g.graph.nodes := by
  obtain ⟨-, before, hn, -⟩ := h
  simp [hn]

theorem Awaits.settled_visit {g : Growth} {label : Label} {node : TypeNode}
    (h : g.Awaits label node) : (g.visit label).Settled := by
  obtain ⟨-, before, hn, hk⟩ := h
  simp [Settled, visit, TypeGraph.keys, TypeGraph.labels, hn, ← hk]

theorem Settled.mem_visited {g : Growth} (h : g.Settled) {k : Label.Key} :
    k ∈ g.visited ↔ k ∈ g.graph.keys := by
  rw [show g.graph.keys = g.visited.reverse from h, List.mem_reverse]

theorem Settled.ready_meet {g : Growth} (h : g.Settled) (label : Label) (node : TypeNode)
    (e : TypeEdge) : (g.meet label node e).Ready label node := by
  by_cases hk : label.key ∈ g.graph.keys
  · refine .inl ⟨h.mem_visited.mpr hk, ?_⟩
    simpa [Settled, meet, TypeGraph.addNode_known hk] using h
  · refine .inr ⟨fun hv => hk (h.mem_visited.mp hv), g.graph.nodes, ?_, ?_⟩
    · simp [meet, TypeGraph.addNode_fresh hk]
    · rwa [Settled, TypeGraph.keys, TypeGraph.labels, List.map_map] at h

end Growth

variable {σ : Type} (w : World σ) (identity : Identity) (mode : Mode)

/-- Take in the relatives of a node, each with all that it leads to. -/
def meetAll (bound : Nat) (side : Side) (label : Label) (found : List TypeNode) (growth : Growth) :
    Client σ Growth :=
  found.foldlM (fun growth relative => do
    let other ← attempt (identity relative)
    expand w identity mode bound relative (growth.meet other relative (side.edge label other)))
    growth

def follow (bound : Nat) (side : Side) (node : TypeNode) (label : Label) (growth : Growth) :
    Client σ Growth :=
  if mode.follows side then do
    let found ← related w side.method node
    meetAll w identity mode bound side label found growth
  else pure growth

theorem expand_succ (bound : Nat) (node : TypeNode) (growth : Growth) :
    expand w identity mode (bound + 1) node growth = (do
      let label ← attempt (identity node)
      if label.key ∈ growth.visited then return growth
      else
        let above ← follow w identity mode bound .above node label (growth.visit label)
        follow w identity mode bound .below node label above) := by
  rw [expand]
  congr 1
  funext label
  split
  · rfl
  · cases mode <;>
      simp [follow, meetAll, Mode.follows, Mode.goesUp, Mode.goesDown, Growth.visit, Side.edge,
        Side.method, supertypes, subtypes]

theorem meetAll_cons (bound : Nat) (side : Side) (label : Label) (relative : TypeNode)
    (rest : List TypeNode) (growth : Growth) :
    meetAll w identity mode bound side label (relative :: rest) growth = (do
      let other ← attempt (identity relative)
      let grown ← expand w identity mode bound relative
        (growth.meet other relative (side.edge label other))
      meetAll w identity mode bound side label rest grown) := by
  simp [meetAll]

inductive Task
  | expand (node : TypeNode)
  | follow (side : Side) (node : TypeNode) (label : Label)
  | meet (side : Side) (label : Label) (found : List TypeNode)

inductive Grows : Task → Growth → List Query → Growth → Prop
  | known {node : TypeNode} {label : Label} {g : Growth} (hl : identity node = .ok label)
      (hs : g.Settled) : Grows (.expand node) g [] g
  | fresh {node : TypeNode} {label : Label} {g above grown : Growth} {up down : List Query}
      (hl : identity node = .ok label) (hw : g.Awaits label node)
      (hu : Grows (.follow .above node label) (g.visit label) up above)
      (hd : Grows (.follow .below node label) above down grown) :
      Grows (.expand node) g (up ++ down) grown
  | skip {side : Side} {node : TypeNode} {label : Label} {g : Growth}
      (hf : mode.follows side = false) (hs : g.Settled) : Grows (.follow side node label) g [] g
  | ask {side : Side} {node : TypeNode} {label : Label} {g grown : Growth}
      {found : List TypeNode} {queries : List Query} (hf : mode.follows side = true)
      (hl : identity node = .ok label) (hn : (label, node) ∈ g.graph.nodes)
      (hm : Grows (.meet side label found) g queries grown) :
      Grows (.follow side node label) g (⟨side, node, found⟩ :: queries) grown
  | done {side : Side} {label : Label} {g : Growth} (hs : g.Settled) :
      Grows (.meet side label []) g [] g
  | next {side : Side} {label other : Label} {g mid grown : Growth} {relative : TypeNode}
      {rest : List TypeNode} {first later : List Query} (hl : identity relative = .ok other)
      (hs : g.Settled)
      (he : Grows (.expand relative) (g.meet other relative (side.edge label other)) first mid)
      (hm : Grows (.meet side label rest) mid later grown) :
      Grows (.meet side label (relative :: rest)) g (first ++ later) grown

variable {w identity mode} {bound : Nat}

theorem Grows.settled {task : Task} {g grown : Growth} {queries : List Query}
    (h : Grows identity mode task g queries grown) : grown.Settled := by
  induction h with
  | known _ hs | skip _ hs | done hs => exact hs
  | fresh _ _ _ _ _ ih | next _ _ _ _ _ ih => exact ih
  | ask _ _ _ _ ih => exact ih

theorem Growth.extends_meet (g : Growth) (label : Label) (node : TypeNode) (e : TypeEdge) :
    (g.meet label node e).graph.Extends g.graph :=
  (TypeGraph.extends_addEdge _ e).trans (TypeGraph.extends_addNode g.graph label node)

theorem Grows.extends {task : Task} {g grown : Growth} {queries : List Query}
    (h : Grows identity mode task g queries grown) : grown.graph.Extends g.graph := by
  induction h with
  | known | skip | done => exact .refl _
  | fresh _ _ _ _ ihu ihd => exact ihd.trans ihu
  | ask _ _ _ _ ih => exact ih
  | next _ _ _ _ ihe ihm => exact ihm.trans (ihe.trans (Growth.extends_meet _ _ _ _))

variable (w identity mode bound) in
/-- Searches of this bound grow their graphs from the answers they get. -/
def Sound : Prop := ∀ {node : TypeNode} {label : Label} {g grown : Growth} {s t : Session σ},
  identity node = .ok label → g.Ready label node →
    outcome (expand w identity mode bound node g) s = (.ok grown, t) →
      ∃ queries, Dialogue w s queries t ∧ Grows identity mode (.expand node) g queries grown

theorem Sound.meetAll (hb : Sound w identity mode bound) {side : Side} {label : Label}
    {found : List TypeNode} {g grown : Growth} {s t : Session σ} (hs : g.Settled)
    (h : outcome (meetAll w identity mode bound side label found g) s = (.ok grown, t)) :
    ∃ queries, Dialogue w s queries t ∧
      Grows identity mode (.meet side label found) g queries grown := by
  induction found generalizing g s with
  | nil =>
      simp only [Hierarchy.meetAll, List.foldlM_nil, outcome_pure, Prod.mk.injEq,
        Except.ok.injEq] at h
      obtain ⟨rfl, rfl⟩ := h
      exact ⟨[], .nil s, .done hs⟩
  | cons relative rest ih =>
      rw [meetAll_cons] at h
      obtain ⟨other, u, hl, h⟩ := outcome_bind_ok.mp h
      obtain ⟨mid, v, he, hm⟩ := outcome_bind_ok.mp h
      simp only [outcome_attempt, Prod.mk.injEq] at hl
      obtain ⟨hl, rfl⟩ := hl
      obtain ⟨first, hd, hg⟩ := hb hl (hs.ready_meet _ _ _) he
      obtain ⟨later, hd', hg'⟩ := ih hg.settled hm
      exact ⟨first ++ later, hd.append hd', .next hl hs hg hg'⟩

theorem Sound.follow (hb : Sound w identity mode bound) {side : Side} {label : Label}
    {node : TypeNode} {g grown : Growth} {s t : Session σ} (hl : identity node = .ok label)
    (hs : g.Settled) (hn : (label, node) ∈ g.graph.nodes)
    (h : outcome (follow w identity mode bound side node label g) s = (.ok grown, t)) :
    ∃ queries, Dialogue w s queries t ∧
      Grows identity mode (.follow side node label) g queries grown := by
  unfold Hierarchy.follow at h
  split at h
  next hf =>
    obtain ⟨found, u, hq, hm⟩ := outcome_bind_ok.mp h
    obtain ⟨queries, hd, hg⟩ := hb.meetAll hs hm
    exact ⟨⟨side, node, found⟩ :: queries, .cons hq hd, .ask hf hl hn hg⟩
  next hf =>
    simp only [outcome_pure, Prod.mk.injEq, Except.ok.injEq] at h
    obtain ⟨rfl, rfl⟩ := h
    exact ⟨[], .nil s, .skip (by simpa using hf) hs⟩

/-- By induction on the bound: a search calls only searches of a lesser one,
and each of these finds its node expanded or at the end of the arena. -/
theorem sound (w : World σ) (identity : Identity) (mode : Mode) (bound : Nat) :
    Sound w identity mode bound := by
  induction bound with
  | zero => intro _ _ _ _ _ _ _ _ h; simp [expand] at h
  | succ bound ih =>
      intro node label g grown s t hl hr h
      rw [expand_succ] at h
      obtain ⟨label', u, hl', h⟩ := outcome_bind_ok.mp h
      simp only [outcome_attempt, hl, Prod.mk.injEq, Except.ok.injEq] at hl'
      obtain ⟨rfl, rfl⟩ := hl'
      split at h
      next hv =>
        simp only [outcome_pure, Prod.mk.injEq, Except.ok.injEq] at h
        obtain ⟨rfl, rfl⟩ := h
        obtain ⟨-, hs⟩ | ⟨hn, -⟩ := hr
        · exact ⟨[], .nil s, .known hl hs⟩
        · exact absurd hv hn
      next hv =>
        have hw : g.Awaits label node := hr.resolve_left fun h => hv h.1
        obtain ⟨above, v, hu, hd⟩ := outcome_bind_ok.mp h
        obtain ⟨up, hp, hg⟩ := ih.follow hl hw.settled_visit hw.mem hu
        obtain ⟨down, hq, hg'⟩ := ih.follow hl hg.settled (hg.extends.nodes.subset hw.mem) hd
        exact ⟨up ++ down, hp.append hq, .fresh hl hw hg hg'⟩

def seed (label : Label) (focus : Option Label) (root : TypeNode) : Growth :=
  ⟨(TypeGraph.empty label (focus.getD label)).addNode label root, []⟩

@[simp]
theorem nodes_seed (label : Label) (focus : Option Label) (root : TypeNode) :
    (seed label focus root).graph.nodes = [(label, root)] := by
  simp [seed, TypeGraph.addNode, TypeGraph.empty, TypeGraph.keys, TypeGraph.labels]

@[simp]
theorem root_seed (label : Label) (focus : Option Label) (root : TypeNode) :
    (seed label focus root).graph.root = label := by
  simp [seed, TypeGraph.addNode, TypeGraph.empty, TypeGraph.keys, TypeGraph.labels]

@[simp]
theorem focus_seed (label : Label) (focus : Option Label) (root : TypeNode) :
    (seed label focus root).graph.focus = focus.getD label := by
  simp [seed, TypeGraph.addNode, TypeGraph.empty, TypeGraph.keys, TypeGraph.labels]

theorem awaits_seed (label : Label) (focus : Option Label) (root : TypeNode) :
    (seed label focus root).Awaits label root := ⟨by simp [seed], [], by simp, rfl⟩

/-- The session in which a graph was reported as built. -/
def reported (mode : Mode) (label : Label) (g : TypeGraph) (s : Session σ) : Session σ :=
  { s with log := s.log ++ [⟨.debug, .types, builtNote label mode g⟩] }

theorem build_ok {node : TypeNode} {focus : Option Label} {s u : Session σ} {g : TypeGraph}
    (h : outcome (build w identity bound node mode focus) s = (.ok g, u)) :
    ∃ label queries t grown, identity (rootFor mode node) = .ok label ∧ Dialogue w s queries t ∧
      Grows identity mode (.expand (rootFor mode node)) (seed label focus (rootFor mode node))
        queries grown ∧
      g = grown.graph ∧ u = reported mode label g t := by
  obtain ⟨label, v, hl, h⟩ := outcome_bind_ok.mp h
  simp only [outcome_attempt, Prod.mk.injEq] at hl
  obtain ⟨hl, rfl⟩ := hl
  obtain ⟨grown, t, he, h⟩ := outcome_bind_ok.mp h
  simp only [outcome_bind, outcome_note, outcome_pure, Prod.mk.injEq, Except.ok.injEq] at h
  obtain ⟨rfl, rfl⟩ := h
  obtain ⟨queries, hd, hg⟩ := sound w identity mode bound hl (.inr (awaits_seed label focus _)) he
  exact ⟨label, queries, t, grown, hl, hd, hg, rfl, rfl⟩

end CodeAtlas.Hierarchy
