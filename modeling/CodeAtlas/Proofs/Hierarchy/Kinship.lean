import CodeAtlas.Proofs.Hierarchy.Closure
import CodeAtlas.Proofs.Name
import Mathlib.Logic.Relation

namespace CodeAtlas

namespace TypeGraph

def Links (g : TypeGraph) (a b : Label.Key) : Prop := (a, b) ∈ g.edgeKeys ∨ (b, a) ∈ g.edgeKeys

/-- The same labels and, up to their direction, the same edges. -/
structure Agrees (g h : TypeGraph) : Prop where
  keys : ∀ k, k ∈ g.keys ↔ k ∈ h.keys
  links : ∀ a b, g.Links a b ↔ h.Links a b

end TypeGraph

namespace Hierarchy

open Client

variable {σ τ : Type} {w : World σ} {v : World τ} {identity : Identity} {mode : Mode}

abbrev Kinship := Side → Label.Key → Label.Key → Prop

def GoesBy (identity : Identity) (nodes : List TypeNode) (k : Label.Key) : Prop :=
  ∃ node ∈ nodes, ∃ label, identity node = .ok label ∧ label.key = k

/-- About certain nodes a server is asked, from a session on. Its answers are
of such nodes again, and the keys in an answer are the relatives of the key
that was asked about. -/
structure AnswersBy (w : World σ) (identity : Identity) (among : TypeNode → Prop) (kin : Kinship)
    (s : Session σ) : Prop where
  stays : ∀ queries t, Dialogue w s queries t → ∀ q ∈ queries, among q.node →
    ∀ relative ∈ q.found, among relative
  keys : ∀ queries t, Dialogue w s queries t → ∀ q ∈ queries, among q.node →
    ∀ label, identity q.node = .ok label → ∀ k, GoesBy identity q.found k ↔ kin q.side label.key k

/-- From a key to one of its relatives that the mode asks for. -/
def Leads (kin : Kinship) (mode : Mode) (a b : Label.Key) : Prop :=
  ∃ side, mode.follows side = true ∧ kin side a b

/-- An edge is reported above its child or below its parent. -/
def Reports (kin : Kinship) (mode : Mode) (parent child : Label.Key) : Prop :=
  mode.follows .above = true ∧ kin .above child parent ∨
    mode.follows .below = true ∧ kin .below parent child

variable {among : TypeNode → Prop} {kin : Kinship} {s t : Session σ} {queries : List Query}
  {root : TypeNode} {g : TypeGraph}

theorem AnswersBy.after (hs : AnswersBy w identity among kin s) (hd : Dialogue w s queries t) :
    AnswersBy w identity among kin t where
  stays later u hu q hq :=
    hs.stays (queries ++ later) u (hd.append hu) q (List.mem_append_right queries hq)
  keys later u hu q hq :=
    hs.keys (queries ++ later) u (hd.append hu) q (List.mem_append_right queries hq)

theorem AnswersBy.of_found (hs : AnswersBy w identity among kin s) {side : Side} {node : TypeNode}
    {found : List TypeNode} {label : Label}
    (hq : outcome (related w side.method node) s = (.ok found, t)) (ha : among node)
    (hl : identity node = .ok label) : ∀ relative ∈ found,
      among relative ∧ ∀ other, identity relative = .ok other → kin side label.key other.key := by
  intro relative hm
  have hd : Dialogue w s [⟨side, node, found⟩] t := .cons hq (.nil t)
  refine ⟨hs.stays _ t hd _ (List.mem_singleton_self _) ha relative hm, fun other ho => ?_⟩
  exact (hs.keys _ t hd _ (List.mem_singleton_self _) ha label hl other.key).mp
    ⟨relative, hm, other, ho, rfl⟩

/-- Discovery is well founded: what the root has, and each node met in the
answer about one that has it, all nodes of the graph have. -/
theorem IsClosure.discovery (hc : IsClosure identity mode root queries g)
    {P : Label × TypeNode → Prop} (hroot : P (g.root, root))
    (hstep : ∀ origin ∈ g.nodes, P origin → ∀ q ∈ queries, q.node = origin.2 →
      ∀ entry ∈ g.nodes, entry.2 ∈ q.found → P entry) : ∀ entry ∈ g.nodes, P entry := by
  have hall : ∀ (i : Nat) entry, g.nodes[i]? = some entry → P entry := by
    intro i
    induction i using Nat.strongRecOn with
    | ind i ih =>
        intro entry he
        cases i with
        | zero =>
            rw [← List.head?_eq_getElem?, hc.root, Option.some.injEq] at he
            exact he ▸ hroot
        | succ i =>
            obtain ⟨j, hj, origin, ho, q, hq, hn, hf, -⟩ := hc.discovered i entry he
            exact hstep origin (List.mem_of_getElem? ho) (ih j (by omega) origin ho) q hq hn entry
              (List.mem_of_getElem? he) hf
  intro entry he
  obtain ⟨i, hi⟩ := List.getElem?_of_mem he
  exact hall i entry hi

theorem IsClosure.links_found (hc : IsClosure identity mode root queries g) {q : Query}
    (hq : q ∈ queries) {label other : Label} {relative : TypeNode}
    (hn : (label, q.node) ∈ g.nodes) (hr : relative ∈ q.found)
    (hl : identity relative = .ok other) :
    other.key ∈ g.keys ∧ g.Links label.key other.key := by
  obtain ⟨other', hl', hmem, hjoins⟩ :=
    (hc.answered q hq).2.met label (hc.labelled _ hn) relative hr
  obtain rfl : other = other' := Except.ok.inj (hl.symm.trans hl')
  refine ⟨hmem, ?_⟩
  cases hside : q.side <;> rw [hside] at hjoins
  · exact hjoins.symm
  · exact hjoins

theorem IsClosure.root_mem (hc : IsClosure identity mode root queries g) :
    (g.root, root) ∈ g.nodes := List.mem_of_head? hc.root

theorem IsClosure.identity_root (hc : IsClosure identity mode root queries g) :
    identity root = .ok g.root := hc.labelled _ hc.root_mem

/-- A closure under answers that have the relatives of the keys asked about. -/
structure IsKinClosure (identity : Identity) (mode : Mode) (kin : Kinship) (root : TypeNode)
    (queries : List Query) (g : TypeGraph) : Prop extends IsClosure identity mode root queries g where
  relatives : ∀ q ∈ queries, ∀ label, (label, q.node) ∈ g.nodes →
    ∀ k, GoesBy identity q.found k ↔ kin q.side label.key k

theorem build_isKinClosure {node : TypeNode} {bound : Nat} {focus : Option Label} {u : Session σ}
    (hs : AnswersBy w identity among kin s)
    (h : outcome (build w identity bound node mode focus) s = (.ok g, u))
    (hnode : among (rootFor mode node)) :
    ∃ queries, IsKinClosure identity mode kin (rootFor mode node) queries g := by
  obtain ⟨_, queries, t, grown, hl, hd, hg, he, -⟩ := build_ok h
  have hc : IsClosure identity mode (rootFor mode node) queries g := he ▸ hg.isClosure hl
  have hamong : ∀ entry ∈ g.nodes, among entry.2 :=
    hc.discovery hnode fun origin _ ho q hq hn entry _ hf =>
      hs.stays queries t hd q hq (hn ▸ ho) entry.2 hf
  exact ⟨queries, hc, fun q hq label ho =>
    hs.keys queries t hd q hq (hamong _ ho) label (hc.labelled _ ho)⟩

namespace IsKinClosure

variable (hc : IsKinClosure identity mode kin root queries g) {a b k : Label.Key}

include hc

theorem met_relative {side : Side} (hf : mode.follows side = true) (ha : a ∈ g.keys)
    (h : kin side a b) : b ∈ g.keys ∧ g.Links a b := by
  obtain ⟨⟨label, node⟩, hn, rfl⟩ := TypeGraph.mem_keys.mp ha
  obtain ⟨q, hq, rfl, rfl⟩ := hc.asked _ hn side hf
  obtain ⟨relative, hr, other, hl, rfl⟩ := (hc.relatives q hq label hn b).mpr h
  exact hc.links_found hq hn hr hl

theorem mem_keys_iff : k ∈ g.keys ↔ Relation.ReflTransGen (Leads kin mode) g.root.key k := by
  constructor
  · intro hk
    obtain ⟨entry, hn, rfl⟩ := TypeGraph.mem_keys.mp hk
    refine hc.discovery (P := fun entry => Relation.ReflTransGen _ _ entry.1.key) .refl ?_ entry hn
    intro origin ho hreach q hq hqn entry hn hf
    refine hreach.tail ⟨q.side, (hc.answered q hq).1, ?_⟩
    exact (hc.relatives q hq _ (hqn ▸ ho) _).mp ⟨_, hf, _, hc.labelled _ hn, rfl⟩
  · intro hreach
    induction hreach with
    | refl => exact TypeGraph.mem_keys.mpr ⟨_, hc.root_mem, rfl⟩
    | tail _ step ih =>
        obtain ⟨side, hf, hk⟩ := step
        exact (hc.met_relative hf ih hk).1

theorem reports_of_edge (h : (a, b) ∈ g.edgeKeys) :
    a ∈ g.keys ∧ b ∈ g.keys ∧ Reports kin mode a b := by
  obtain ⟨e, he, hkey⟩ := List.mem_map.mp h
  obtain ⟨rfl, rfl⟩ : e.parent.key = a ∧ e.child.key = b := Prod.mk.inj hkey
  have hends := (hc.justified e he).ends
  obtain ⟨q, hq, label, node, other, ho, hf, hl, -, rfl⟩ := hc.justified e he
  have hkin := (hc.relatives q hq label ho other.key).mp ⟨node, hf, other, hl, rfl⟩
  have hfollows := (hc.answered q hq).1
  refine ⟨hends.1, hends.2, ?_⟩
  cases hside : q.side <;> rw [hside] at hkin hfollows
  · exact .inl ⟨hfollows, hkin⟩
  · exact .inr ⟨hfollows, hkin⟩

theorem links_of_reports (ha : a ∈ g.keys) (hb : b ∈ g.keys) (h : Reports kin mode a b) :
    g.Links a b := by
  obtain ⟨hf, hk⟩ | ⟨hf, hk⟩ := h
  · exact (hc.met_relative hf hb hk).2.symm
  · exact (hc.met_relative hf ha hk).2

theorem links_iff : g.Links a b ↔
    a ∈ g.keys ∧ b ∈ g.keys ∧ (Reports kin mode a b ∨ Reports kin mode b a) := by
  constructor
  · rintro (h | h)
    · obtain ⟨ha, hb, hr⟩ := hc.reports_of_edge h
      exact ⟨ha, hb, .inl hr⟩
    · obtain ⟨hb, ha, hr⟩ := hc.reports_of_edge h
      exact ⟨ha, hb, .inr hr⟩
  · rintro ⟨ha, hb, hr | hr⟩
    · exact hc.links_of_reports ha hb hr
    · exact (hc.links_of_reports hb ha hr).symm

theorem mem_edgeKeys_iff (hone : ∀ a ∈ g.keys, ∀ b ∈ g.keys, a ≠ b → Reports kin mode a b →
      ¬ Reports kin mode b a) :
    (a, b) ∈ g.edgeKeys ↔ a ∈ g.keys ∧ b ∈ g.keys ∧ Reports kin mode a b := by
  refine ⟨hc.reports_of_edge, fun ⟨ha, hb, hr⟩ => ?_⟩
  obtain h | h := hc.links_of_reports ha hb hr
  · exact h
  · -- the reverse edge stands in the graph, so it was reported too
    by_cases hab : a = b
    · subst hab
      exact h
    · exact absurd (hc.reports_of_edge h).2.2 (hone a ha b hb hab hr)

theorem agrees {h : TypeGraph} {root' : TypeNode} {queries' : List Query}
    (hc' : IsKinClosure identity mode kin root' queries' h)
    (hkeys : ∀ k, k ∈ g.keys ↔ k ∈ h.keys) : g.Agrees h := by
  refine ⟨hkeys, fun a b => ?_⟩
  rw [hc.links_iff, hc'.links_iff, hkeys a, hkeys b]

end IsKinClosure

def naming (name : String) : Json := .object [("name", .text name)]

/-- A type as it is read from an object with its name alone. -/
def heard (name : String) : TypeNode :=
  { TypeNode.named name with raw := [("name", .text name)] }

def nameIn (params : Json) : String :=
  match (params.get? "item").bind (Json.get? "name") with
  | some (.text name) => name
  | _ => ""

def IsHeard (node : TypeNode) : Prop := ∃ name ≠ "", node = heard name

/-- A server that knows types by their names, of each the names above and
below it, and at every place the same one. -/
def reporting (table : Side → String → List String) (placed : String) : World Unit where
  isRunning _ := true
  capabilities _ := .object [(typeCapability, .bool true)]
  request method params _ :=
    let names := if method = supertypesMethod then table .above (nameIn params)
      else if method = subtypesMethod then table .below (nameIn params)
      else [placed]
    ⟨.ok (.list (names.map naming)), [], ()⟩
  notify _ _ _ := ⟨.ok (), [], ()⟩
  readFile _ _ := (.ok [], ())
  absolute := .ok

def kinOf (table : Side → String → List String) : Kinship := fun side a b =>
  ∃ name other : String, a = .text name ∧ b = .text other ∧ other ∈ table side name

theorem orElse_name {name : String} (h : name ≠ "") (other : Json) :
    (Json.text name).orElse other = .text name := by
  simp [Json.orElse, Json.truthy, h]

theorem ofJson_naming {name : String} (h : name ≠ "") :
    TypeNode.ofJson (naming name) = .ok (heard name) := by
  simp [TypeNode.ofJson, TypeNode.relatives, naming, heard, TypeNode.named, orElse_name h]
  rfl

theorem byName_heard {name : String} (h : name ≠ "") :
    Identity.byName (heard name) = .ok (.text name) :=
  congrArg Label.ofJson (orElse_name h _)

theorem goesBy_heard {names : List String} (hnamed : "" ∉ names) (k : Label.Key) :
    GoesBy Identity.byName (names.map heard) k ↔ ∃ name ∈ names, k = .text name := by
  have hbyName : ∀ name ∈ names, Identity.byName (heard name) = .ok (.text name) :=
    fun name hn => byName_heard fun h => hnamed (h ▸ hn)
  constructor
  · rintro ⟨node, hn, label, hl, rfl⟩
    obtain ⟨name, hname, rfl⟩ := List.mem_map.mp hn
    obtain rfl := Except.ok.inj ((hbyName name hname).symm.trans hl)
    exact ⟨name, hname, rfl⟩
  · rintro ⟨name, hn, rfl⟩
    exact ⟨heard name, List.mem_map_of_mem hn, .text name, hbyName name hn, rfl⟩

variable {table : Side → String → List String} {placed : String}

theorem related_reporting (hnamed : ∀ side name, "" ∉ table side name) (side : Side)
    (name : String) (s : Session Unit) : ∃ t,
      outcome (related (reporting table placed) side.method (heard name)) s =
        (.ok ((table side name).map heard), t) := by
  have hside : (if side.method = supertypesMethod then table .above name
      else if side.method = subtypesMethod then table .below name else [placed]) =
        table side name := by
    cases side <;> rfl
  have hname : nameIn (.object [("item", (heard name).toJson)]) = name := rfl
  have hread : (objects (.list ((table side name).map naming))).mapM TypeNode.ofJson =
      .ok ((table side name).map heard) := by
    rw [objects_list fun _ _ => by rfl]
    exact mapM_map_ok fun other ho => ofJson_naming fun h => hnamed side name (h ▸ ho)
  simp only [related, query, outcome_bind, outcome_tryCatch, outcome_exchange]
  simp only [reporting, if_true, hname, hside, outcome_attempt, hread]
  exact ⟨_, rfl⟩

theorem found_reporting (hnamed : ∀ side name, "" ∉ table side name) {s t : Session Unit}
    {queries : List Query} (hd : Dialogue (reporting table placed) s queries t) {q : Query}
    (hq : q ∈ queries) {name : String} (hn : q.node = heard name) :
    q.found = (table q.side name).map heard := by
  induction hd with
  | nil => simp at hq
  | @cons s t u q' rest first _ ih =>
      obtain rfl | hq := List.mem_cons.mp hq
      · obtain ⟨t', h⟩ := related_reporting hnamed q.side name s
        rw [hn, h] at first
        exact (Except.ok.inj (Prod.mk.inj first).1).symm
      · exact ih hq

variable (table) in
theorem typeAt_reporting (hplaced : placed ≠ "") (uri : Json) (p : Position) (s : Session Unit) :
    ∃ t, outcome (typeAt (reporting table placed) .standard uri p) s =
      (.ok (some (heard placed)), t) := by
  have hrequire : outcome (require (reporting table placed) [typeCapability]) s = (.ok (), s) := rfl
  have hobjects : objects (.list [naming placed]) = [naming placed] := rfl
  have hmethod : Settings.standard.method ≠ supertypesMethod := by decide
  have hmethod' : Settings.standard.method ≠ subtypesMethod := by decide
  simp only [typeAt, query, outcome_bind, hrequire, outcome_tryCatch, outcome_exchange]
  simp only [reporting, if_true, if_neg hmethod, if_neg hmethod', List.map_cons, List.map_nil,
    hobjects, outcome_bind, outcome_attempt, ofJson_naming hplaced, outcome_pure]
  exact ⟨_, rfl⟩

theorem answersBy_reporting (hnamed : ∀ side name, "" ∉ table side name) (s : Session Unit) :
    AnswersBy (reporting table placed) Identity.byName IsHeard (kinOf table) s where
  stays queries t hd q hq := by
    rintro ⟨name, -, hn⟩ relative hr
    rw [found_reporting hnamed hd hq hn] at hr
    obtain ⟨other, ho, rfl⟩ := List.mem_map.mp hr
    exact ⟨other, fun h => hnamed q.side name (h ▸ ho), rfl⟩
  keys queries t hd q hq := by
    rintro ⟨name, hname, hn⟩ label hl k
    obtain rfl := Except.ok.inj ((byName_heard hname).symm.trans (hn ▸ hl))
    rw [found_reporting hnamed hd hq hn, goesBy_heard (hnamed q.side name)]
    constructor
    · rintro ⟨other, ho, rfl⟩
      exact ⟨name, other, rfl, rfl, ho⟩
    · rintro ⟨name', other, ha, rfl, ho⟩
      obtain rfl := Name.ofString_inj.mp (Label.Key.text.inj ha)
      exact ⟨other, ho, rfl⟩

/-- Two servers that answer by the same relation give the same labels and the
same edges up to their direction; where no edge between different labels is
reported both ways, they give the same edges. -/
theorem build_orderFree {among' : TypeNode → Prop} {s' : Session τ}
    (hw : AnswersBy w identity among kin s) (hv : AnswersBy v identity among' kin s')
    {node : TypeNode} (hnode : among (rootFor mode node)) (hnode' : among' (rootFor mode node))
    {bound bound' : Nat} {focus focus' : Option Label} {g h : TypeGraph} {u : Session σ}
    {u' : Session τ} (hg : outcome (build w identity bound node mode focus) s = (.ok g, u))
    (hh : outcome (build v identity bound' node mode focus') s' = (.ok h, u')) :
    g.Agrees h ∧
      ((∀ a ∈ g.keys, ∀ b ∈ g.keys, a ≠ b → Reports kin mode a b → ¬ Reports kin mode b a) →
        ∀ e, e ∈ g.edgeKeys ↔ e ∈ h.edgeKeys) := by
  obtain ⟨queries, hc⟩ := build_isKinClosure hw hg hnode
  obtain ⟨queries', hc'⟩ := build_isKinClosure hv hh hnode'
  have hroot : g.root = h.root := Except.ok.inj (hc.identity_root.symm.trans hc'.identity_root)
  have hkeys : ∀ k, k ∈ g.keys ↔ k ∈ h.keys := fun k => by
    rw [hc.mem_keys_iff, hc'.mem_keys_iff, hroot]
  refine ⟨hc.agrees hc' hkeys, fun hone ⟨a, b⟩ => ?_⟩
  have hone' : ∀ a ∈ h.keys, ∀ b ∈ h.keys, a ≠ b → Reports kin mode a b →
      ¬ Reports kin mode b a :=
    fun a ha b hb => hone a ((hkeys a).mpr ha) b ((hkeys b).mpr hb)
  rw [hc.mem_edgeKeys_iff hone, hc'.mem_edgeKeys_iff hone', hkeys a, hkeys b]

def ladder : Side → String → List String
  | .above, name => ["B", "A"].filter (· < name)
  | .below, name => ["B", "C"].filter (name < ·)

def shuffled (side : Side) (name : String) : List String :=
  (ladder side name).reverse ++ (ladder side name).take 1

theorem named_ladder (side : Side) (name : String) : "" ∉ ladder side name := by
  intro h
  cases side
  · exact absurd (List.mem_filter.mp h).1 (by decide)
  · exact absurd (List.mem_filter.mp h).1 (by decide)

theorem mem_shuffled (side : Side) (name other : String) :
    other ∈ shuffled side name ↔ other ∈ ladder side name := by
  have htake : other ∈ (ladder side name).take 1 → other ∈ ladder side name := List.mem_of_mem_take
  simpa [shuffled] using htake

theorem lt_of_reports_ladder {a b : Label.Key} (h : Reports (kinOf ladder) .both a b) :
    ∃ x y : String, a = .text x ∧ b = .text y ∧ x < y := by
  obtain ⟨-, name, other, rfl, rfl, h⟩ | ⟨-, name, other, rfl, rfl, h⟩ := h
  · exact ⟨other, name, rfl, rfl, of_decide_eq_true (List.mem_filter.mp h).2⟩
  · exact ⟨name, other, rfl, rfl, of_decide_eq_true (List.mem_filter.mp h).2⟩

theorem build_orderFree_shuffled : ∃ g h u u',
    outcome (build (reporting ladder "A") Identity.byName 4 (heard "A") .both none) (.start ()) =
        (.ok g, u) ∧
      outcome (build (reporting shuffled "A") Identity.byName 4 (heard "A") .both none)
        (.start ()) = (.ok h, u') ∧
      g.labels = [.text "A", .text "B", .text "C"] ∧
      h.labels = [.text "A", .text "C", .text "B"] ∧
      g.Agrees h ∧ ∀ e, e ∈ g.edgeKeys ↔ e ∈ h.edgeKeys := by
  obtain ⟨g, u, hg, hlabels⟩ : ∃ g u,
      outcome (build (reporting ladder "A") Identity.byName 4 (heard "A") .both none) (.start ()) =
        (.ok g, u) ∧ g.labels = [.text "A", .text "B", .text "C"] :=
    exists_result (by decide +kernel)
  obtain ⟨h, u', hh, hlabels'⟩ : ∃ h u',
      outcome (build (reporting shuffled "A") Identity.byName 4 (heard "A") .both none)
        (.start ()) = (.ok h, u') ∧ h.labels = [.text "A", .text "C", .text "B"] :=
    exists_result (by decide +kernel)
  have hnamed : ∀ side name, "" ∉ shuffled side name := fun side name hm =>
    named_ladder side name ((mem_shuffled side name "").mp hm)
  have hkin : kinOf shuffled = kinOf ladder := by
    funext side a b
    simp only [kinOf, mem_shuffled]
  obtain ⟨hagrees, hedges⟩ := build_orderFree (answersBy_reporting named_ladder (.start ()))
    (hkin ▸ answersBy_reporting hnamed (.start ())) ⟨"A", by decide, rfl⟩ ⟨"A", by decide, rfl⟩
    hg hh
  refine ⟨g, h, u, u', hg, hh, hlabels, hlabels', hagrees, hedges fun a _ b _ _ hab hba => ?_⟩
  obtain ⟨x, y, rfl, rfl, hxy⟩ := lt_of_reports_ladder hab
  obtain ⟨y', x', hy, hx, hyx⟩ := lt_of_reports_ladder hba
  obtain rfl := Name.ofString_inj.mp (Label.Key.text.inj hy)
  obtain rfl := Name.ofString_inj.mp (Label.Key.text.inj hx)
  exact String.lt_asymm hxy hyx

end Hierarchy

end CodeAtlas
