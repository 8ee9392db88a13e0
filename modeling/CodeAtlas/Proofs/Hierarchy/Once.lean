import CodeAtlas.Proofs.Hierarchy.Ending

namespace CodeAtlas.Hierarchy

open Client

variable {σ : Type} {w : World σ} {identity : Identity} {mode : Mode}

/-- The nodes of a list are seen in turn. Queries about one, and all that is
seen for them, come before the next. -/
inductive DepthFirst : List TypeNode → List Query → List TypeNode → Prop
  | nil : DepthFirst [] [] []
  | see {rest seen : List TypeNode} {queries : List Query} (node : TypeNode)
      (h : DepthFirst rest queries seen) : DepthFirst (node :: rest) queries (node :: seen)
  | ask {node : TypeNode} {rest found seen seen' : List TypeNode} {inner later : List Query}
      (side : Side) (hi : DepthFirst found inner seen)
      (hl : DepthFirst (node :: rest) later (node :: seen')) :
      DepthFirst (node :: rest) (⟨side, node, found⟩ :: (inner ++ later)) (node :: (seen ++ seen'))

def keepFirst (identity : Identity) (kept : List (Label × TypeNode)) (node : TypeNode) :
    List (Label × TypeNode) :=
  match identity node with
  | .error _ => kept
  | .ok label =>
    if label.key ∈ kept.map (fun entry => entry.1.key) then kept else kept ++ [(label, node)]

theorem Growth.nodes_meet (g : Growth) {label : Label} {node : TypeNode}
    (hl : identity node = .ok label) (e : TypeEdge) :
    (g.meet label node e).graph.nodes = keepFirst identity g.graph.nodes node := by
  have hk : g.graph.keys = g.graph.nodes.map fun entry => entry.1.key := by
    simp [TypeGraph.keys, TypeGraph.labels]
  by_cases h : label.key ∈ g.graph.keys
  · simp [keepFirst, hl, meet, TypeGraph.addNode_known h, if_pos (hk ▸ h)]
  · simp [keepFirst, hl, meet, TypeGraph.addNode_fresh h, if_neg (hk ▸ h)]

def Task.Sees (queries : List Query) (seen : List TypeNode) : Task → Prop
  | .expand node | .follow _ node _ => ∀ rest later seen',
    DepthFirst (node :: rest) later (node :: seen') →
      DepthFirst (node :: rest) (queries ++ later) (node :: (seen ++ seen'))
  | .meet _ _ found => DepthFirst found queries seen

theorem Grows.seen {task : Task} {g grown : Growth} {queries : List Query}
    (h : Grows identity mode task g queries grown) :
    ∃ seen, task.Sees queries seen ∧
      grown.graph.nodes = seen.foldl (keepFirst identity) g.graph.nodes := by
  induction h with
  | known | skip => exact ⟨[], fun _ _ _ h => h, rfl⟩
  | done => exact ⟨[], .nil, rfl⟩
  | ask _ _ _ _ ih =>
      obtain ⟨seen, hs, hn⟩ := ih
      exact ⟨seen, fun _ _ _ h => .ask _ hs h, hn⟩
  | fresh _ _ _ _ ihu ihd =>
      obtain ⟨seen, hs, hn⟩ := ihu
      obtain ⟨seen', hs', hn'⟩ := ihd
      refine ⟨seen ++ seen', fun rest later more h => ?_, ?_⟩
      · simpa using hs _ _ _ (hs' _ _ _ h)
      · rw [hn', hn, List.foldl_append]
        rfl
  | @next side label other g mid grown relative rest first later hl _ _ _ ihe ihm =>
      obtain ⟨seen, hs, hn⟩ := ihe
      obtain ⟨seen', hs', hn'⟩ := ihm
      refine ⟨relative :: (seen ++ seen'), hs rest later seen' (.see relative hs'), ?_⟩
      rw [hn', hn, g.nodes_meet hl, List.foldl_cons, List.foldl_append]

/-- All that is asked for a graph, in order: on a side that the mode follows,
one message for each entry of the graph, and nothing else. -/
structure AsksOnce (identity : Identity) (mode : Mode) (root : TypeNode) (queries : List Query)
    (g : TypeGraph) : Prop where
  distinct : g.keys.Nodup
  first : ∃ seen, DepthFirst [root] queries seen ∧ g.nodes = seen.foldl (keepFirst identity) []
  only : ∀ q ∈ queries, mode.follows q.side = true
  once : ∀ side, mode.follows side = true →
    ((queries.map Query.sent).filter fun m => m.method = side.method).Perm
      (g.nodes.map fun entry => side.asks entry.2)
  ordered : ((queries.map Query.sent).filter fun m => m.method = mode.leading.method) =
    g.nodes.map fun entry => mode.leading.asks entry.2

theorem filter_sent (side : Side) (queries : List Query) :
    ((queries.map Query.sent).filter fun m => m.method = side.method) =
      (askedOn side queries).map side.asks := by
  induction queries with
  | nil => rfl
  | cons q rest ih =>
      rw [askedOn_cons, List.map_cons, List.filter_cons, ih]
      by_cases h : q.side = side
      · simp [h, Query.sent, Side.asks]
      · have hm : ¬ q.side.method = side.method := fun hm => h (Side.method_injective hm)
        simp [h, hm, Query.sent, Side.asks]

theorem Grows.asksOnce {label : Label} {focus : Option Label} {root : TypeNode} {grown : Growth}
    {queries : List Query} (hl : identity root = .ok label)
    (h : Grows identity mode (.expand root) (seed label focus root) queries grown) :
    AsksOnce identity mode root queries grown.graph := by
  refine ⟨(h.founded trivial (founded_seed hl)).distinct, ?_, h.follows, fun side hside => ?_, ?_⟩
  · obtain ⟨seen, hs, hn⟩ := h.seen
    refine ⟨root :: seen, by simpa using hs [] [] [] (.see root .nil), ?_⟩
    rw [hn, List.foldl_cons, nodes_seed]
    simp [keepFirst, hl]
  · rw [filter_sent]
    simpa [Function.comp_def] using (h.askedOn_seed hside).1.map side.asks
  · rw [filter_sent, (h.askedOn_seed mode.follows_leading).2 rfl]
    simp

variable (w identity mode) in
/-- A build ends if the server knows finitely many labels: some bound is as
good as any larger one, and only the server or the identity can fail it. A
build that gives a graph asks once about each label. -/
theorem build_asksOnce (s : Session σ) (node : TypeNode) (focus : Option Label) :
    (∀ known, Confined w identity known → ∃ bound,
      (∀ more, outcome (build w identity (bound + more) node mode focus) s =
        outcome (build w identity bound node mode focus) s) ∧
      ∀ e u, outcome (build w identity bound node mode focus) s = (.error e, u) →
        BreaksOff w identity e s u) ∧
    ∀ bound g u, outcome (build w identity bound node mode focus) s = (.ok g, u) →
      ∃ queries t, Dialogue w s queries t ∧ u.traffic = s.traffic ++ queries.map Query.sent ∧
        AsksOnce identity mode (rootFor mode node) queries g := by
  constructor
  · intro known hc
    exact ⟨known.length + 2, build_ends hc s node mode focus⟩
  · intro bound g u h
    obtain ⟨label, queries, t, grown, hl, hd, hg, rfl, rfl⟩ := build_ok h
    exact ⟨queries, t, hd, hd.traffic, hg.asksOnce hl⟩

theorem confined_pair :
    Confined (answering pair) Identity.byName [.text "A", .text "B"] := by
  intro side params state reply hr item hi node hn label hl
  obtain rfl : pair = reply := Except.ok.inj hr
  obtain rfl | rfl : item = .object [("name", .text "A")] ∨ item = .object [("name", .text "B")] := by
    simpa [pair, entries] using (List.mem_filter.mp hi).1
  all_goals
    cases hn
    cases hl
    decide

theorem build_asksOnce_pair :
    (∃ bound, ∀ e u,
      outcome (build (answering pair) Identity.byName bound (TypeNode.named "A") .both none)
        (.start ()) = (.error e, u) → BreaksOff (answering pair) Identity.byName e (.start ()) u) ∧
    ∃ g u queries t,
      outcome (build (answering pair) Identity.byName 3 (TypeNode.named "A") .both none)
        (.start ()) = (.ok g, u) ∧ Dialogue (answering pair) (.start ()) queries t ∧
        AsksOnce Identity.byName .both (TypeNode.named "A") queries g := by
  have h := build_asksOnce (answering pair) Identity.byName .both (.start ()) (.named "A") none
  constructor
  · obtain ⟨bound, -, hb⟩ := h.1 _ confined_pair
    exact ⟨bound, hb⟩
  · obtain ⟨g, u, hg⟩ : ∃ g u,
        outcome (build (answering pair) Identity.byName 3 (TypeNode.named "A") .both none)
          (.start ()) = (.ok g, u) := ⟨_, _, rfl⟩
    obtain ⟨queries, t, hd, -, ha⟩ := h.2 _ _ _ hg
    exact ⟨g, u, queries, t, hg, hd, ha⟩

end CodeAtlas.Hierarchy
