import CodeAtlas.Proofs.Hierarchy.Founded
import CodeAtlas.Proofs.Hierarchy.Order

namespace CodeAtlas.Hierarchy

open Client

variable {σ : Type} {w : World σ} {identity : Identity} {mode : Mode} {bound : Nat}

/-- A relative is in the graph, and so is the edge to it or its reverse. -/
def Met (identity : Identity) (g : TypeGraph) (side : Side) (label : Label) (relative : TypeNode) :
    Prop :=
  ∃ other, identity relative = .ok other ∧ other.key ∈ g.keys ∧ g.Joins (side.edge label other)

theorem Met.mono {g h : TypeGraph} {side : Side} {label : Label} {relative : TypeNode}
    (hm : Met identity g side label relative) (he : h.Extends g) :
    Met identity h side label relative := by
  obtain ⟨other, hl, hk, hj⟩ := hm
  exact ⟨other, hl, he.keys hk, he.joins hj⟩

theorem met_meet {g : Growth} {side : Side} {label other : Label} {relative : TypeNode}
    (hl : identity relative = .ok other) :
    Met identity (g.meet other relative (side.edge label other)).graph side label relative :=
  ⟨other, hl, by simpa [Growth.meet] using TypeGraph.key_mem_addNode g.graph other relative,
    TypeGraph.joins_addEdge _ _⟩

/-- A query was made for a node of the arena, and the graph has taken in all
that it was answered with. -/
structure Answered (identity : Identity) (g : TypeGraph) (q : Query) : Prop where
  known : ∃ label, (label, q.node) ∈ g.nodes
  met : ∀ label, identity q.node = .ok label → ∀ relative ∈ q.found,
    Met identity g q.side label relative

theorem Answered.mono {g h : TypeGraph} {q : Query} (ha : Answered identity g q)
    (he : h.Extends g) : Answered identity h q :=
  ⟨ha.known.imp fun _ hn => he.nodes.subset hn,
    fun label hl relative hf => (ha.met label hl relative hf).mono he⟩

def Task.Done (identity : Identity) (g : TypeGraph) : Task → Prop
  | .meet side label found => ∀ relative ∈ found, Met identity g side label relative
  | _ => True

theorem Grows.answered {task : Task} {g grown : Growth} {queries : List Query}
    (h : Grows identity mode task g queries grown) :
    (∀ q ∈ queries, Answered identity grown.graph q) ∧ task.Done identity grown.graph := by
  induction h with
  | known | skip | done => simp [Task.Done]
  | fresh _ _ _ hd ihu ihd =>
      exact ⟨List.forall_mem_append.mpr ⟨fun q hq => (ihu.1 q hq).mono hd.extends, ihd.1⟩, trivial⟩
  | ask _ hl hn hm ih =>
      refine ⟨List.forall_mem_cons.mpr ⟨⟨⟨_, hm.extends.nodes.subset hn⟩, ?_⟩, ih.1⟩, trivial⟩
      intro label' hl' relative hf
      obtain rfl : _ = label' := Except.ok.inj (hl.symm.trans hl')
      exact ih.2 relative hf
  | next hl _ he hm ihe ihm =>
      refine ⟨List.forall_mem_append.mpr ⟨fun q hq => (ihe.1 q hq).mono hm.extends, ihm.1⟩, ?_⟩
      exact List.forall_mem_cons.mpr
        ⟨(met_meet hl).mono (hm.extends.trans he.extends), ihm.2⟩

/-- The relatives of a task that meets them come from a query made before. -/
def Task.Issued (asked : List Query) (g : Growth) : Task → Prop
  | .meet side label found =>
    ∃ q ∈ asked, q.side = side ∧ (label, q.node) ∈ g.graph.nodes ∧ found ⊆ q.found
  | _ => True

theorem Founded.meet {asked : List Query} {g : Growth} (hg : Founded identity asked g.graph)
    {q : Query} (hq : q ∈ asked) {label other : Label} {relative : TypeNode}
    (ho : (label, q.node) ∈ g.graph.nodes) (hf : relative ∈ q.found)
    (hl : identity relative = .ok other) :
    Founded identity asked (g.meet other relative (q.side.edge label other)).graph := by
  by_cases hk : other.key ∈ g.graph.keys
  · simpa [Growth.meet, TypeGraph.addNode_known hk] using hg.meet_known hq ho hf hl hk
  · exact hg.meet_fresh hq ho hf hl hk

/-- By induction on the growth. Queries made before count too, since a task
may go on with the answer to one of them. -/
theorem Grows.founded {task : Task} {g grown : Growth} {queries : List Query}
    (h : Grows identity mode task g queries grown) {asked : List Query}
    (hi : task.Issued asked g) (hg : Founded identity asked g.graph) :
    Founded identity (asked ++ queries) grown.graph := by
  induction h generalizing asked with
  | known | skip | done => simpa using hg
  | fresh _ _ _ _ ihu ihd =>
      rw [← List.append_assoc]
      exact ihd trivial (ihu trivial hg)
  | @ask side node label g grown found queries _ _ hn _ ih =>
      rw [List.append_cons]
      refine ih ⟨⟨side, node, found⟩, by simp, rfl, hn, List.Subset.refl _⟩ ?_
      exact hg.mono (List.subset_append_left _ _)
  | @next side label other g mid grown relative rest first later hl _ he _ ihe ihm =>
      obtain ⟨q, hq, rfl, ho, hf⟩ := hi
      obtain ⟨hr, hf⟩ := List.cons_subset.mp hf
      have hmid : mid.graph.Extends g.graph := he.extends.trans (Growth.extends_meet _ _ _ _)
      rw [← List.append_assoc]
      refine ihm ⟨q, List.mem_append_left _ hq, rfl, hmid.nodes.subset ho, hf⟩ ?_
      exact ihe trivial (hg.meet hq ho hr hl)

theorem founded_seed {label : Label} {focus : Option Label} {root : TypeNode}
    (hl : identity root = .ok label) : Founded identity [] (seed label focus root).graph := by
  have hedges : (seed label focus root).graph.edges = [] := by simp [seed, TypeGraph.empty]
  refine ⟨by simp [TypeGraph.keys, TypeGraph.labels], by simpa using hl, ?_, by simp [hedges]⟩
  intro i entry h
  simp at h

/-- A graph against the queries for its labels and the answers to them. -/
structure IsClosure (identity : Identity) (mode : Mode) (root : TypeNode) (queries : List Query)
    (g : TypeGraph) : Prop extends Founded identity queries g where
  root : g.nodes.head? = some (g.root, root)
  asked : ∀ entry ∈ g.nodes, ∀ side, mode.follows side = true →
    ∃ q ∈ queries, q.side = side ∧ q.node = entry.2
  answered : ∀ q ∈ queries, mode.follows q.side = true ∧ Answered identity g q

theorem Grows.isClosure {label : Label} {focus : Option Label} {root : TypeNode} {grown : Growth}
    {queries : List Query} (hl : identity root = .ok label)
    (h : Grows identity mode (.expand root) (seed label focus root) queries grown) :
    IsClosure identity mode root queries grown.graph := by
  obtain ⟨new, hnodes⟩ := h.extends.nodes
  rw [nodes_seed] at hnodes
  refine ⟨?_, ?_, ?_, fun q hq => ⟨h.follows q hq, h.answered.1 q hq⟩⟩
  · simpa using h.founded trivial (founded_seed hl)
  · simp [← hnodes, h.extends.root]
  · intro entry hn side hside
    have hmem : entry.2 ∈ askedOn side queries :=
      (h.askedOn_seed hside).1.mem_iff.mpr (List.mem_map_of_mem hn)
    simpa [askedOn, and_assoc] using hmem

/-- Whatever the server answers, a graph that is built is the closure of its
root under the answers to the queries made for it. -/
theorem build_isClosure {node : TypeNode} {focus : Option Label} {s u : Session σ} {g : TypeGraph}
    (h : outcome (build w identity bound node mode focus) s = (.ok g, u)) :
    ∃ queries t, Dialogue w s queries t ∧ u = reported mode g.root g t ∧
      IsClosure identity mode (rootFor mode node) queries g := by
  obtain ⟨label, queries, t, grown, hl, hd, hg, rfl, rfl⟩ := build_ok h
  have hroot : grown.graph.root = label := hg.extends.root.trans (root_seed _ _ _)
  exact ⟨queries, t, hd, by rw [hroot], hg.isClosure hl⟩

/-- Two types, reported above and below themselves and each other. -/
def pair : Json := .list [.object [("name", .text "A")], .object [("name", .text "B")]]

theorem build_isClosure_pair : ∃ g u queries t,
    g.labels = [.text "A", .text "B"] ∧ Dialogue (answering pair) (.start ()) queries t ∧
      u = reported .both g.root g t ∧
      IsClosure Identity.byName .both (TypeNode.named "A") queries g := by
  obtain ⟨g, u, h, hg⟩ : ∃ g u,
      outcome (build (answering pair) Identity.byName 3 (TypeNode.named "A") .both none)
        (.start ()) = (.ok g, u) ∧ g.labels = [.text "A", .text "B"] := ⟨_, _, rfl, rfl⟩
  obtain ⟨queries, t, hd, hu, hc⟩ := build_isClosure h
  exact ⟨g, u, queries, t, hg, hd, hu, hc⟩

end CodeAtlas.Hierarchy
