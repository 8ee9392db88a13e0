import CodeAtlas.Proofs.Diagram.Classes
import CodeAtlas.Proofs.Hierarchy.Component

namespace CodeAtlas

/-- The identities there are to choose from. -/
def Identity.all : List Identity := [.byName, .byDetail, .byUri]

theorem Identity.label_withoutParents {identity : Identity} (h : identity ∈ all)
    (node : TypeNode) : identity node.withoutParents = identity node := by
  simp only [all, List.mem_cons, List.not_mem_nil, or_false] at h
  obtain rfl | rfl | rfl := h <;> rfl

namespace Hierarchy

open Client Relation

variable {σ : Type} {w : World σ} {identity : Identity} {mode : Mode}
  {among : TypeNode → Prop} {R : Label.Key → Label.Key → Prop} {s t u : Session σ} {bound : Nat}
  {g : TypeGraph}

theorem build_focus {node : TypeNode} {focus : Label}
    (h : outcome (build w identity bound node mode (some focus)) s = (.ok g, u)) :
    g.focus = focus := by
  obtain ⟨label, queries, t, grown, -, -, hg, rfl, -⟩ := build_ok h
  rw [hg.extends.focus, focus_seed, Option.getD_some]

/-- Without the parents that they carry nodes are among the others still, and
go by the labels they went by. -/
structure ParentsAside (identity : Identity) (among : TypeNode → Prop) : Prop where
  stays : ∀ node, among node → among node.withoutParents
  label : ∀ node, among node → identity node.withoutParents = identity node

theorem parentsAside_of_stays (hi : identity ∈ Identity.all)
    (hs : ∀ node, among node → among node.withoutParents) : ParentsAside identity among :=
  ⟨hs, fun node _ => Identity.label_withoutParents hi node⟩

theorem rootFor_down (hm : mode.goesDown = true)
    (hr : mode = .descendants → ParentsAside identity among) {node : TypeNode}
    (ha : among node) :
    among (rootFor mode node) ∧ identity (rootFor mode node) = identity node := by
  cases mode with
  | ancestors => cases hm
  | descendants => exact ⟨(hr rfl).stays node ha, (hr rfl).label node ha⟩
  | both => exact ⟨ha, rfl⟩

theorem leads_below (hm : mode.goesDown = true) {a b : Label.Key} (h : R a b) :
    Leads (sidesOf R) mode a b := ⟨.below, hm, h⟩

theorem Founded.ends_mem_labels {queries : List Query} (hg : Founded identity queries g)
    (hl : ∀ l ∈ g.labels, l.IsText) :
    ∀ e ∈ g.edges, e.parent ∈ g.labels ∧ e.child ∈ g.labels := by
  intro e he
  obtain ⟨hparent, hchild⟩ := (hg.justified e he).ends
  exact ⟨TypeGraph.mem_labels_of_key hl hparent, TypeGraph.mem_labels_of_key hl hchild⟩

theorem Founded.edges_texts {queries : List Query} (hg : Founded identity queries g)
    (hl : ∀ l ∈ g.labels, l.IsText) : ∀ e ∈ g.edges, e.parent.IsText ∧ e.child.IsText :=
  fun e he => (hg.ends_mem_labels hl e he).imp (hl _) (hl _)

theorem build_mem_below (hm : mode.goesDown = true)
    (hr : mode = .descendants → ParentsAside identity among)
    (hs : AnswersBy w identity among (sidesOf R) s) {start : TypeNode} {focus : Option Label}
    {label : Label} {k : Label.Key} (ha : among start) (hl : identity start = .ok label)
    (hdown : ReflTransGen R label.key k)
    (h : outcome (build w identity bound start mode focus) s = (.ok g, u)) : k ∈ g.keys := by
  obtain ⟨hamong, hlabel⟩ := rootFor_down hm hr ha
  obtain ⟨queries, hc⟩ := build_isKinClosure hs h hamong
  have hroot : g.root = label :=
    Except.ok.inj (hc.identity_root.symm.trans (hlabel.trans hl))
  rw [hc.mem_keys_iff, hroot]
  exact ReflTransGen.mono (fun _ _ => leads_below hm) _ _ hdown

/-- What a graph tells of the type that the climb to its root began at. -/
structure Shows (identity : Identity) (g : TypeGraph) (item : TypeNode) : Prop where
  focus : identity item = .ok g.focus
  mem_keys : g.focus.key ∈ g.keys
  declared : (∀ l ∈ g.labels, l.IsText) → g.focus ∈ g.labels ∧ ∃ text,
    Diagram.ofGraph g = .ok text ∧ Diagram.HasLine text ("class " ++ g.focus.display)

theorem shows_of_climb (hm : mode.goesDown = true)
    (hr : mode = .descendants → ParentsAside identity among) (hp : ParentsBy identity among R)
    (hs : AnswersBy w identity among (sidesOf R) s) {item start : TypeNode} {label : Label}
    (ha : among item) (hl : identity item = .ok label)
    (hclimb : outcome (climbToRoot w identity bound item) s = (.ok start, t))
    (hg : outcome (build w identity bound start mode (some label)) t = (.ok g, u)) :
    Shows identity g item := by
  obtain rfl := build_focus hg
  obtain ⟨hfollows, hstays, other, ho, hdown⟩ := climbToRoot_ok hp hs ha hl hclimb
  have hk : g.focus.key ∈ g.keys :=
    build_mem_below hm hr (hfollows.answersBy hs) hstays ho hdown hg
  refine ⟨hl, hk, fun htexts => ?_⟩
  obtain ⟨_, queries, _, grown, hlabel, -, hgrown, he, -⟩ := build_ok hg
  have hc : IsClosure identity mode (rootFor mode start) queries g := he ▸ hgrown.isClosure hlabel
  have hfocus : g.focus ∈ g.labels := TypeGraph.mem_labels_of_key htexts hk
  refine ⟨hfocus, _, Diagram.ofGraph_texts htexts (hc.edges_texts htexts), ?_⟩
  rw [← Diagram.declaration_focus]
  exact Diagram.hasLine_of_mem (List.mem_append_left _ (List.mem_map_of_mem hfocus))

/-- Over a server that answers by one relation, a graph that takes in the types
below and starts from the root that was climbed to has the type that the climb
began at, and its diagram declares that type under its exact name. -/
theorem buildAt_fromRoot (hm : mode.goesDown = true)
    (hr : mode = .descendants → ParentsAside identity among)
    (hp : ParentsBy identity among R) {set : Settings} {file : String} {p : Position}
    {item : TypeNode} (hi : outcome (locate w set file p) s = (.ok (some item), t))
    (ha : among item) (ht : AnswersBy w identity among (sidesOf R) t)
    (h : outcome (buildAt w identity set bound file p mode true) s = (.ok (some g), u)) :
    identity item = .ok g.focus ∧ g.focus.key ∈ g.keys ∧
      ((∀ l ∈ g.labels, l.IsText) → g.focus ∈ g.labels ∧ ∃ text,
        Diagram.ofGraph g = .ok text ∧ Diagram.HasLine text ("class " ++ g.focus.display)) := by
  obtain ⟨start, t', focus, g, hstart, hl, hg, ⟨⟩⟩ := (buildAt_located hi).mp h
  obtain ⟨hfocus, hkeys, hdeclared⟩ := shows_of_climb hm hr hp ht ha hl hstart hg
  exact ⟨hfocus, hkeys, hdeclared⟩

theorem buildAt_fromRoot_all (hb : identity ∈ Identity.all) (hm : mode.goesDown = true)
    (hr : mode = .descendants → ∀ node, among node → among node.withoutParents)
    (hp : ParentsBy identity among R) {set : Settings} {file : String} {p : Position}
    {item : TypeNode} (hi : outcome (locate w set file p) s = (.ok (some item), t))
    (ha : among item) (ht : AnswersBy w identity among (sidesOf R) t)
    (h : outcome (buildAt w identity set bound file p mode true) s = (.ok (some g), u)) :
    Shows identity g item := by
  obtain ⟨start, t', focus, g, hstart, hl, hg, ⟨⟩⟩ := (buildAt_located hi).mp h
  exact shows_of_climb hm (fun hd => parentsAside_of_stays hb (hr hd)) hp ht ha hl hstart hg

theorem buildAt_fromRoot_fork : ∃ g u,
    outcome (buildAt (reporting fork "B") Identity.byName .standard 4 "m" ⟨0, 0⟩ .descendants true)
      (.start ()) = (.ok (some g), u) ∧
    g.labels = [.text "A", .text "B", .text "C"] ∧ g.focus = .text "B" ∧
    ∃ text, Diagram.ofGraph g = .ok text ∧ Diagram.HasLine text "class B" := by
  obtain ⟨t, ht⟩ := locate_fork
  obtain ⟨found, u, h, hfound⟩ : ∃ found u,
      outcome (buildAt (reporting fork "B") Identity.byName .standard 4 "m" ⟨0, 0⟩ .descendants
        true) (.start ()) = (.ok found, u) ∧
        found.map (fun g => (g.labels, g.focus)) =
          some ([.text "A", .text "B", .text "C"], .text "B") :=
    exists_result (by decide +kernel)
  obtain ⟨g, rfl, hg⟩ := Option.map_eq_some_iff.mp hfound
  obtain ⟨hlabels, hfocus⟩ := Prod.mk.inj hg
  have haside : ParentsAside Identity.byName IsHeard := by
    refine parentsAside_of_stays (by simp [Identity.all]) ?_
    rintro _ ⟨name, hname, rfl⟩
    exact ⟨name, hname, rfl⟩
  obtain ⟨-, -, htexts⟩ := buildAt_fromRoot (rfl : Mode.descendants.goesDown = true)
    (fun _ => haside) (parentsBy_heard _ _) ht ⟨"B", by decide, rfl⟩ (obliges_fork t).toAnswersBy h
  obtain ⟨-, text, htext, hline⟩ := htexts (by simp [hlabels, Label.IsText])
  rw [hfocus] at hline
  exact ⟨g, u, h, hlabels, hfocus, text, htext, hline⟩

end Hierarchy

end CodeAtlas
