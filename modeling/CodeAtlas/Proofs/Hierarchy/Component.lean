import CodeAtlas.Proofs.Client.NormalForm
import CodeAtlas.Proofs.Hierarchy.Climbing
import CodeAtlas.Proofs.Hierarchy.Returning
import Mathlib.Data.List.Perm.Subperm

namespace CodeAtlas

namespace Hierarchy

open Client Relation

variable {σ : Type} {w : World σ} {identity : Identity} {among : TypeNode → Prop}

/-- The relatives by a relation of parents to children. -/
def sidesOf (R : Label.Key → Label.Key → Prop) : Kinship
  | .above, child, parent => R parent child
  | .below, parent, child => R parent child

/-- The parents that nodes carry are among the nodes too, and related to them. -/
structure ParentsBy (identity : Identity) (among : TypeNode → Prop)
    (R : Label.Key → Label.Key → Prop) : Prop where
  stays : ∀ node, among node → ∀ parents, node.parents = some parents →
    ∀ parent ∈ parents, among parent
  keys : ∀ node, among node → ∀ parents, node.parents = some parents → ∀ parent ∈ parents,
    ∀ label other, identity node = .ok label → identity parent = .ok other →
      R other.key label.key

variable {R : Label.Key → Label.Key → Prop} {s t : Session σ} {bound : Nat} {g : TypeGraph}

theorem leads_sidesOf : Leads (sidesOf R) .both = SymmGen R := by
  funext a b
  apply propext
  constructor
  · rintro ⟨side, -, h⟩
    cases side
    · exact .of_rel_symm h
    · exact .of_rel h
  · rintro (h | h)
    · exact ⟨.below, rfl, h⟩
    · exact ⟨.above, rfl, h⟩

theorem Closed.mem_of_eqvGen {known : List Label.Key} (hc : Closed (sidesOf R) .both known)
    {a b : Label.Key} (ha : a ∈ known) (h : EqvGen R a b) : b ∈ known := by
  rw [← EqvGen.reflTransGen_symmGen, ← leads_sidesOf] at h
  induction h with
  | refl => exact ha
  | tail _ step ih => exact hc _ ih _ step

theorem IsKinClosure.mem_keys_both {root : TypeNode} {queries : List Query}
    (hc : IsKinClosure identity .both (sidesOf R) root queries g) {k : Label.Key} :
    k ∈ g.keys ↔ EqvGen R g.root.key k := by
  rw [hc.mem_keys_iff, leads_sidesOf, EqvGen.reflTransGen_symmGen]

theorem IsKinClosure.closed_both {root : TypeNode} {queries : List Query}
    (hc : IsKinClosure identity .both (sidesOf R) root queries g) :
    Closed (sidesOf R) .both g.keys :=
  fun _ ha _ ⟨_, hf, hk⟩ => (hc.met_relative hf ha hk).1

theorem corresponds_self (w : World σ) : Corresponds Eq w w where
  isRunning _ _ h := h ▸ rfl
  capabilities _ _ h := h ▸ rfl
  request _ _ _ _ h := h ▸ ⟨rfl, rfl⟩
  notify _ _ _ _ h := h ▸ ⟨rfl, rfl⟩
  readFile _ _ _ h := h ▸ ⟨rfl, rfl⟩
  absolute := rfl

theorem beside_symm (h : Beside Eq s t) : Beside Eq t s :=
  ⟨h.world.symm, h.texts.symm, h.traffic.symm⟩

theorem related_beside {side : Side} {node : TypeNode} {r : Except Failure (List TypeNode)}
    {s' : Session σ} (hst : Beside Eq s t)
    (h : outcome (related w side.method node) s = (r, s')) :
    ∃ t', outcome (related w side.method node) t = (r, t') ∧ Beside Eq s' t' := by
  have hagree := (corresponds_self w).companions.related side.method node s t hst
  rw [h] at hagree
  exact ⟨(outcome (related w side.method node) t).2, Prod.ext hagree.1.symm rfl, hagree.2⟩

theorem Dialogue.beside {u : Session σ} {queries : List Query} (hst : Beside Eq s t)
    (hd : Dialogue w s queries u) : ∃ v, Dialogue w t queries v ∧ Beside Eq u v := by
  induction hd generalizing t with
  | nil s => exact ⟨t, .nil t, hst⟩
  | cons first _ ih =>
      obtain ⟨t', hfirst, hkept⟩ := related_beside hst first
      obtain ⟨v, hd, huv⟩ := ih hkept
      exact ⟨v, .cons hfirst hd, huv⟩

theorem AnswersBy.beside {kin : Kinship} (hs : AnswersBy w identity among kin s)
    (hts : Beside Eq t s) : AnswersBy w identity among kin t where
  stays queries _ hd :=
    let ⟨v, hd', _⟩ := hd.beside hts
    hs.stays queries v hd'
  keys queries _ hd :=
    let ⟨v, hd', _⟩ := hd.beside hts
    hs.keys queries v hd'

theorem Obliges.beside {kin : Kinship} (hs : Obliges w identity among kin s)
    (hts : Beside Eq t s) : Obliges w identity among kin t where
  toAnswersBy := hs.toAnswersBy.beside hts
  labelled := hs.labelled
  answers queries u hd node ha side := by
    obtain ⟨v, hd', huv⟩ := hd.beside hts
    obtain ⟨found, v', hq⟩ := hs.answers queries v hd' node ha side
    obtain ⟨u', hq', -⟩ := related_beside (beside_symm huv) hq
    exact ⟨found, u', hq'⟩

/-- A dialogue leads to this session, but for what was logged. -/
def Follows (w : World σ) (s t : Session σ) : Prop :=
  ∃ queries u, Dialogue w s queries u ∧ Beside Eq t u

theorem Follows.answersBy {kin : Kinship} (h : Follows w s t)
    (hs : AnswersBy w identity among kin s) : AnswersBy w identity among kin t :=
  let ⟨_, _, hd, htu⟩ := h
  (hs.after hd).beside htu

theorem Follows.obliges {kin : Kinship} (h : Follows w s t)
    (hs : Obliges w identity among kin s) : Obliges w identity among kin t :=
  let ⟨_, _, hd, htu⟩ := h
  (hs.after hd).beside htu

theorem parentsOf_ok (hp : ParentsBy identity among R)
    (hs : AnswersBy w identity among (sidesOf R) s) {node : TypeNode} {label : Label}
    {parents : List TypeNode} (ha : among node) (hl : identity node = .ok label)
    (h : outcome (parentsOf w node) s = (.ok parents, t)) :
    Follows w s t ∧ ∀ parent ∈ parents,
      among parent ∧ ∀ other, identity parent = .ok other → R other.key label.key := by
  obtain ⟨hcarries, hd⟩ := parentsOf_ok_iff.mp h
  refine ⟨⟨_, t, hd, rfl, rfl, rfl⟩, fun parent hm => ?_⟩
  cases hn : node.parents with
  | some carried =>
      obtain rfl := hcarries carried hn
      exact ⟨hp.stays node ha _ hn parent hm,
        fun other => hp.keys node ha _ hn parent hm label other hl⟩
  | none =>
      simp only [askedFor, hn] at hd
      cases hd with
      | cons first _ => exact hs.of_found first ha hl parent hm

theorem Follows.trans {u : Session σ} (h : Follows w s t) (h' : Follows w t u) :
    Follows w s u := by
  obtain ⟨queries, t', hd, ht⟩ := h
  obtain ⟨later, u', hd', hu⟩ := h'
  obtain ⟨v, hd'', huv⟩ := hd'.beside ht
  exact ⟨queries ++ later, v, hd.append hd'', hu.world.trans huv.world, hu.texts.trans huv.texts,
    hu.traffic.trans huv.traffic⟩

theorem Climbs.follows (hp : ParentsBy identity among R) {seen : List Label.Key} {r : Rung}
    {rungs : List Rung} (hs : AnswersBy w identity among (sidesOf R) s) (ha : among r.node)
    (hl : identity r.node = .ok r.label) (h : Climbs w identity seen r s rungs t) :
    Follows w s t ∧ ∀ last, rungs.getLast? = some last → among last.node ∧
      identity last.node = .ok last.label ∧ ReflTransGen R last.key r.key := by
  induction h with
  | @root _ r _ t hparents =>
      obtain ⟨hu, -⟩ := parentsOf_ok hp hs ha hl hparents
      refine ⟨hu, fun last hlast => ?_⟩
      obtain rfl : r = last := Option.some.inj hlast
      exact ⟨ha, hl, .refl⟩
  | @cycle _ r _ t _ _ hparents =>
      obtain ⟨hu, -⟩ := parentsOf_ok hp hs ha hl hparents
      refine ⟨hu.trans ⟨[], t, .nil t, rfl, rfl, rfl⟩, fun last hlast => ?_⟩
      obtain rfl : r = last := Option.some.inj hlast
      exact ⟨ha, hl, .refl⟩
  | @step _ r next _ _ _ _ hparents hf hn _ hc ih =>
      obtain ⟨hu, hrelated⟩ := parentsOf_ok hp hs ha hl hparents
      obtain ⟨ha', hR⟩ := hrelated next.node (List.mem_of_mem_head? hf)
      obtain ⟨hv, hlast⟩ := ih (hu.answersBy hs) ha' hn
      obtain ⟨more, rfl⟩ := hc.head
      refine ⟨hu.trans hv, fun last hl' => ?_⟩
      obtain ⟨ha'', hl'', hdown⟩ := hlast last (by simpa [List.getLast?_cons] using hl')
      exact ⟨ha'', hl'', hdown.tail (hR next.label hn)⟩

theorem climbToRoot_ok (hp : ParentsBy identity among R) {node top : TypeNode} {label : Label}
    (hs : AnswersBy w identity among (sidesOf R) s) (ha : among node)
    (hl : identity node = .ok label)
    (h : outcome (climbToRoot w identity bound node) s = (.ok top, t)) :
    Follows w s t ∧ among top ∧
      ∃ other, identity top = .ok other ∧ ReflTransGen R other.key label.key := by
  simp only [climbToRoot, outcome_bind, outcome_attempt, hl] at h
  obtain ⟨parents, rungs, last, hc, hlast, rfl⟩ := climb_climbs label h
  obtain ⟨ht, hends⟩ := hc.follows hp hs ha hl
  obtain ⟨ha', hl', hdown⟩ := hends last hlast
  exact ⟨ht, ha', last.label, hl', hdown⟩

theorem parentsOf_returns (hs : Obliges w identity among (sidesOf R) s) {node : TypeNode}
    (ha : among node) : ∃ parents t, outcome (parentsOf w node) s = (.ok parents, t) := by
  unfold parentsOf
  split
  next sent _ => exact ⟨sent, s, rfl⟩
  next => exact hs.answers [] s (.nil s) node ha .above

/-- By induction on the bound: each step of a climb adds a key to those seen,
all of them known, so the bound is not met before there is none left. -/
theorem climb_returns (hp : ParentsBy identity among R) {known seen : List Label.Key}
    (hclosed : Closed (sidesOf R) .both known) {node : TypeNode} {label : Label}
    (hs : Obliges w identity among (sidesOf R) s) (ha : among node)
    (hl : identity node = .ok label) (hk : label.key ∈ known) (hdistinct : seen.Nodup)
    (hseen : seen ⊆ known) (hb : known.length < bound + seen.length) :
    ∃ top t, outcome (climb w identity bound seen node) s = (.ok top, t) := by
  induction bound generalizing seen node label s with
  | zero =>
      have := (hdistinct.subperm hseen).length_le
      omega
  | succ bound ih =>
      obtain ⟨parents, u, hparents⟩ := parentsOf_returns hs ha
      obtain ⟨hu, hrelated⟩ := parentsOf_ok hp hs.toAnswersBy ha hl hparents
      simp only [climb, outcome_bind, hparents]
      cases parents with
      | nil => exact ⟨node, u, rfl⟩
      | cons parent rest =>
          obtain ⟨ha', hR⟩ := hrelated parent List.mem_cons_self
          obtain ⟨other, ho⟩ := hs.labelled parent ha'
          simp only [outcome_bind, outcome_attempt, ho]
          split
          · exact ⟨node, _, rfl⟩
          next hfresh =>
            have hk' : other.key ∈ known := hclosed label.key hk _ ⟨.above, rfl, hR other ho⟩
            refine ih (hu.obliges hs) ha' ho hk' (List.nodup_cons.mpr ⟨hfresh, hdistinct⟩)
              (List.cons_subset.mpr ⟨hk', hseen⟩) ?_
            rw [List.length_cons]
            omega

theorem climbToRoot_returns (hp : ParentsBy identity among R) {known : List Label.Key}
    (hclosed : Closed (sidesOf R) .both known) {node : TypeNode} {label : Label}
    (hs : Obliges w identity among (sidesOf R) s) (ha : among node)
    (hl : identity node = .ok label) (hk : label.key ∈ known) (hb : known.length < bound) :
    ∃ top t, outcome (climbToRoot w identity bound node) s = (.ok top, t) := by
  simp only [climbToRoot, outcome_bind, outcome_attempt, hl]
  exact climb_returns hp hclosed hs ha hl hk (by simp) (by simpa using hk)
    (by rw [List.length_singleton]; omega)

variable (w identity) in
/-- The type at a place, in a document that is opened for it. -/
def locate (set : Settings) (file : String) (p : Position) : Client σ (Option TypeNode) := do
  require w [typeCapability]
  let path ← attempt (w.absolute (Path.ofString file))
  let uri := Document.uriOfPath path
  let _ ← ensureOpen w uri
  typeAt w set (.text uri) p

variable (w identity) in
def startFrom (bound : Nat) (fromRoot : Bool) (item : TypeNode) : Client σ TypeNode :=
  if fromRoot then climbToRoot w identity bound item else pure item

theorem buildAt_eq (set : Settings) (file : String) (p : Position) (mode : Mode)
    (fromRoot : Bool) :
    buildAt w identity set bound file p mode fromRoot = (do
      match ← locate w set file p with
      | none => do
        note .info .types (← attempt (missingNote file p))
        return none
      | some item => do
        let start ← startFrom w identity bound fromRoot item
        let focus ← attempt (identity item)
        return some (← build w identity bound start mode (some focus))) := by
  simp only [buildAt, locate, bind_assoc]
  refine bind_congr fun _ => bind_congr fun _ => bind_congr fun _ => bind_congr fun found => ?_
  cases found with
  | none => rfl
  | some item => cases fromRoot <;> rfl

theorem startFrom_ok (hp : ParentsBy identity among R) {fromRoot : Bool} {item start : TypeNode}
    {label : Label} (hs : AnswersBy w identity among (sidesOf R) s) (ha : among item)
    (hl : identity item = .ok label)
    (h : outcome (startFrom w identity bound fromRoot item) s = (.ok start, t)) :
    Follows w s t ∧ among start ∧
      ∃ other, identity start = .ok other ∧ EqvGen R label.key other.key := by
  cases fromRoot with
  | true =>
      obtain ⟨ht, hstart, other, ho, hdown⟩ := climbToRoot_ok hp hs ha hl h
      exact ⟨ht, hstart, other, ho, .symm _ _ (EqvGen.reflTransGen_le_eqvGen R _ _ hdown)⟩
  | false =>
      obtain ⟨rfl, rfl⟩ : item = start ∧ s = t := by simpa [startFrom] using h
      exact ⟨⟨[], s, .nil s, rfl, rfl, rfl⟩, ha, label, hl, .refl _⟩

theorem startFrom_returns (hp : ParentsBy identity among R) {known : List Label.Key}
    (hclosed : Closed (sidesOf R) .both known) (fromRoot : Bool) {item : TypeNode} {label : Label}
    (hs : Obliges w identity among (sidesOf R) s) (ha : among item)
    (hl : identity item = .ok label) (hk : label.key ∈ known) (hb : known.length < bound) :
    ∃ start t, outcome (startFrom w identity bound fromRoot item) s = (.ok start, t) := by
  cases fromRoot with
  | true => exact climbToRoot_returns hp hclosed hs ha hl hk hb
  | false => exact ⟨item, s, rfl⟩

theorem buildAt_located {set : Settings} {file : String} {p : Position} {mode : Mode}
    {fromRoot : Bool} {item : TypeNode} {u : Session σ} {r : Option TypeGraph}
    (hi : outcome (locate w set file p) s = (.ok (some item), t)) :
    outcome (buildAt w identity set bound file p mode fromRoot) s = (.ok r, u) ↔
      ∃ start t' focus g, outcome (startFrom w identity bound fromRoot item) t = (.ok start, t') ∧
        identity item = .ok focus ∧
        outcome (build w identity bound start mode (some focus)) t' = (.ok g, u) ∧ r = some g := by
  rw [buildAt_eq, outcome_bind, hi]
  simp only [outcome_bind_ok, outcome_attempt, outcome_pure, Prod.mk.injEq, Except.ok.injEq]
  constructor
  · rintro ⟨start, _, hstart, focus, _, ⟨hf, rfl⟩, g, _, hg, rfl, rfl⟩
    exact ⟨start, _, focus, g, hstart, hf, hg, rfl⟩
  · rintro ⟨start, t', focus, g, hstart, hf, hg, rfl⟩
    exact ⟨start, t', hstart, focus, t', ⟨hf, rfl⟩, g, u, hg, rfl, rfl⟩

theorem buildAt_isKinClosure (hp : ParentsBy identity among R) {set : Settings} {file : String}
    {p : Position} {fromRoot : Bool} {item : TypeNode} {u : Session σ}
    (hi : outcome (locate w set file p) s = (.ok (some item), t)) (ha : among item)
    (ht : AnswersBy w identity among (sidesOf R) t)
    (h : outcome (buildAt w identity set bound file p .both fromRoot) s = (.ok (some g), u)) :
    ∃ root queries label, IsKinClosure identity .both (sidesOf R) root queries g ∧
      identity item = .ok label ∧ ∀ k, k ∈ g.keys ↔ EqvGen R label.key k := by
  obtain ⟨start, t', label, g, hstart, hl, hg, ⟨⟩⟩ := (buildAt_located hi).mp h
  obtain ⟨hfollows, hstart, other, ho, hR⟩ := startFrom_ok hp ht ha hl hstart
  obtain ⟨queries, hc⟩ := build_isKinClosure (hfollows.answersBy ht) hg hstart
  obtain rfl : g.root = other := Except.ok.inj (hc.identity_root.symm.trans ho)
  refine ⟨_, queries, label, hc, hl, fun k => hc.mem_keys_both.trans ?_⟩
  exact ⟨.trans _ _ _ hR, .trans _ _ _ (.symm _ _ hR)⟩

theorem buildAt_returns (hp : ParentsBy identity among R) {set : Settings} {file : String}
    {p : Position} {known : List Label.Key} (hclosed : Closed (sidesOf R) .both known)
    {item : TypeNode} {label : Label}
    (hi : outcome (locate w set file p) s = (.ok (some item), t)) (ha : among item)
    (hl : identity item = .ok label) (hk : label.key ∈ known)
    (ht : Obliges w identity among (sidesOf R) t) (hb : known.length < bound) (fromRoot : Bool) :
    ∃ g u, outcome (buildAt w identity set bound file p .both fromRoot) s = (.ok (some g), u) := by
  obtain ⟨start, t', hstart⟩ := startFrom_returns hp hclosed fromRoot ht ha hl hk hb
  obtain ⟨hfollows, ha', other, ho, hR⟩ := startFrom_ok hp ht.toAnswersBy ha hl hstart
  have hk' : other.key ∈ known := hclosed.mem_of_eqvGen hk hR
  obtain ⟨g, u, hg⟩ := build_returns (hfollows.obliges ht)
    (show among (rootFor .both start) from ha') ho hclosed hk' hb (some label)
  exact ⟨g, u, (buildAt_located hi).mpr ⟨start, t', label, g, hstart, hl, hg, rfl⟩⟩

/-- Over a server that answers by one relation, a graph with the relatives on
both sides is the component of its root, and every node of it is as good a start
as any other; so is the root that is climbed to from the type at a place, as long
as the parents that nodes carry go by the relation too. -/
theorem both_anyStart (w : World σ) (identity : Identity) (among : TypeNode → Prop)
    (R : Label.Key → Label.Key → Prop) :
    (∀ s node bound focus g u, AnswersBy w identity among (sidesOf R) s → among node →
      outcome (build w identity bound node .both focus) s = (.ok g, u) →
        (∃ label, identity node = .ok label ∧ ∀ k, k ∈ g.keys ↔ EqvGen R label.key k) ∧
        ∀ start label s', among start → identity start = .ok label → label.key ∈ g.keys →
          AnswersBy w identity among (sidesOf R) s' →
            (∀ bound focus h u,
              outcome (build w identity bound start .both focus) s' = (.ok h, u) → g.Agrees h) ∧
            (Obliges w identity among (sidesOf R) s' → ∀ bound focus, g.keys.length < bound →
              ∃ h u, outcome (build w identity bound start .both focus) s' = (.ok h, u))) ∧
    (∀ s set file p item t, outcome (locate w set file p) s = (.ok (some item), t) → among item →
      AnswersBy w identity among (sidesOf R) t → ParentsBy identity among R →
        ∀ fromRoot bound g u,
          outcome (buildAt w identity set bound file p .both fromRoot) s = (.ok (some g), u) →
            ∀ fromRoot',
              (∀ bound r u, outcome (buildAt w identity set bound file p .both fromRoot') s =
                (.ok r, u) → ∃ h, r = some h ∧ g.Agrees h) ∧
              (Obliges w identity among (sidesOf R) t → ∀ bound, g.keys.length < bound →
                ∃ h u, outcome (buildAt w identity set bound file p .both fromRoot') s =
                  (.ok (some h), u))) := by
  constructor
  · intro s node bound focus g u hs ha hg
    obtain ⟨queries, hc⟩ := build_isKinClosure hs hg ha
    refine ⟨⟨g.root, hc.identity_root, fun k => hc.mem_keys_both⟩, ?_⟩
    intro start label s' ha' hl hk hs'
    refine ⟨fun bound focus h u hh => ?_, fun ho bound focus hb => ?_⟩
    · obtain ⟨queries', hc'⟩ := build_isKinClosure hs' hh ha'
      obtain rfl : h.root = label := Except.ok.inj (hc'.identity_root.symm.trans hl)
      have hR : EqvGen R g.root.key h.root.key := hc.mem_keys_both.mp hk
      refine hc.agrees hc' fun k => ?_
      rw [hc.mem_keys_both, hc'.mem_keys_both]
      exact ⟨.trans _ _ _ (.symm _ _ hR), .trans _ _ _ hR⟩
    · exact build_returns ho (show among (rootFor .both start) from ha') hl hc.closed_both hk hb focus
  · intro s set file p item t hi ha ht hp fromRoot bound g u hg fromRoot'
    obtain ⟨root, queries, label, hc, hl, hkeys⟩ := buildAt_isKinClosure hp hi ha ht hg
    refine ⟨fun bound r u hr => ?_, fun ho bound hb => ?_⟩
    · obtain ⟨_, _, _, h, -, -, -, rfl⟩ := (buildAt_located hi).mp hr
      obtain ⟨root', queries', label', hc', hl', hkeys'⟩ := buildAt_isKinClosure hp hi ha ht hr
      obtain rfl : label = label' := Except.ok.inj (hl.symm.trans hl')
      exact ⟨h, rfl, hc.agrees hc' fun k => (hkeys k).trans (hkeys' k).symm⟩
    · exact buildAt_returns hp hc.closed_both hi ha hl ((hkeys _).mpr (.refl _)) ho hb fromRoot'

def fork : Side → String → List String
  | .above, name => if name ∈ ["B", "C"] then ["A"] else []
  | .below, name => if name = "A" then ["B", "C"] else []

theorem named_fork (side : Side) (name : String) : "" ∉ fork side name := by
  cases side <;> simp only [fork] <;> split <;> decide

theorem kinOf_fork : kinOf fork = sidesOf (kinOf fork .below) := by
  funext side a b
  cases side with
  | below => rfl
  | above =>
      apply propext
      constructor
      · rintro ⟨name, other, rfl, rfl, h⟩
        obtain ⟨hname, rfl⟩ : name ∈ ["B", "C"] ∧ other = "A" := by simpa [fork] using h
        exact ⟨"A", name, rfl, rfl, hname⟩
      · rintro ⟨name, other, rfl, rfl, h⟩
        obtain ⟨rfl, hother⟩ : name = "A" ∧ other ∈ ["B", "C"] := by simpa [fork] using h
        refine ⟨other, "A", rfl, rfl, ?_⟩
        simp only [fork, hother, if_true, List.mem_singleton]

theorem obliges_reporting {table : Side → String → List String} {placed : String}
    (hnamed : ∀ side name, "" ∉ table side name) (s : Session Unit) :
    Obliges (reporting table placed) Identity.byName IsHeard (kinOf table) s where
  toAnswersBy := answersBy_reporting hnamed s
  labelled _ := by
    rintro ⟨name, hname, rfl⟩
    exact ⟨.text name, byName_heard hname⟩
  answers _ t _ _ := by
    rintro ⟨name, -, rfl⟩ side
    exact ⟨_, related_reporting hnamed side name t⟩

theorem obliges_fork (s : Session Unit) : Obliges (reporting fork "B") Identity.byName IsHeard
    (sidesOf (kinOf fork .below)) s := kinOf_fork ▸ obliges_reporting named_fork s

theorem parentsBy_heard (identity : Identity) (R : Label.Key → Label.Key → Prop) :
    ParentsBy identity IsHeard R := by
  constructor
  all_goals
    rintro _ ⟨name, -, rfl⟩ parents hp
    cases hp

theorem locate_fork : ∃ t, outcome (locate (reporting fork "B") .standard "m" ⟨0, 0⟩) (.start ()) =
    (.ok (some (heard "B")), t) := by
  obtain ⟨content, u, hopen, -⟩ : ∃ content u, outcome (ensureOpen (reporting fork "B")
      (Document.uriOfPath (Path.ofString "m"))) (.start ()) = (.ok content, u) ∧
        content.isEmpty = true :=
    exists_result (by decide +kernel)
  obtain ⟨t, ht⟩ := typeAt_reporting fork (by decide : "B" ≠ "")
    (.text (Document.uriOfPath (Path.ofString "m"))) ⟨0, 0⟩ u
  exact ⟨t, outcome_bind_ok.mpr ⟨(), .start (), rfl, outcome_bind_ok.mpr
    ⟨_, .start (), rfl, outcome_bind_ok.mpr ⟨content, u, hopen, ht⟩⟩⟩⟩

theorem both_anyStart_fork : ∃ g around h rooted u u' v v',
    outcome (build (reporting fork "B") Identity.byName 4 (heard "B") .both none) (.start ()) =
        (.ok g, u) ∧
      g.labels = [.text "B", .text "A", .text "C"] ∧
      (∀ k, k ∈ g.keys ↔ EqvGen (kinOf fork .below) (.text "B") k) ∧
      outcome (build (reporting fork "B") Identity.byName 4 (heard "C") .both none) (.start ()) =
        (.ok h, u') ∧
      g.Agrees h ∧
      outcome (buildAt (reporting fork "B") Identity.byName .standard 4 "m" ⟨0, 0⟩ .both false)
        (.start ()) = (.ok (some around), v) ∧
      outcome (buildAt (reporting fork "B") Identity.byName .standard 4 "m" ⟨0, 0⟩ .both true)
        (.start ()) = (.ok (some rooted), v') ∧
      around.labels = [.text "B", .text "A", .text "C"] ∧
      around.Agrees rooted := by
  obtain ⟨hbuild, hbuildAt⟩ := both_anyStart (reporting fork "B") Identity.byName IsHeard
    (kinOf fork .below)
  obtain ⟨g, u, hg, hlabels⟩ : ∃ g u,
      outcome (build (reporting fork "B") Identity.byName 4 (heard "B") .both none) (.start ()) =
        (.ok g, u) ∧ g.labels = [.text "B", .text "A", .text "C"] :=
    exists_result (by decide +kernel)
  have hcard : g.keys.length < 4 := by simp [TypeGraph.keys, hlabels]
  have hC : Label.Key.text "C" ∈ g.keys := by
    rw [TypeGraph.keys, hlabels]
    decide
  obtain ⟨⟨label, hl, hkeys⟩, hstart⟩ :=
    hbuild (.start ()) _ _ _ _ _ (obliges_fork _).toAnswersBy ⟨"B", by decide, rfl⟩ hg
  obtain rfl := Except.ok.inj ((byName_heard (by decide)).symm.trans hl)
  obtain ⟨hagrees, hreturns⟩ := hstart (heard "C") (.text "C") (.start ())
    ⟨"C", by decide, rfl⟩ (byName_heard (by decide)) hC (obliges_fork _).toAnswersBy
  obtain ⟨h, u', hh⟩ := hreturns (obliges_fork _) 4 none hcard
  obtain ⟨t, ht⟩ := locate_fork
  obtain ⟨found, v, haround, hfound⟩ : ∃ found v,
      outcome (buildAt (reporting fork "B") Identity.byName .standard 4 "m" ⟨0, 0⟩ .both false)
        (.start ()) = (.ok found, v) ∧
        found.map TypeGraph.labels = some [.text "B", .text "A", .text "C"] :=
    exists_result (by decide +kernel)
  obtain ⟨around, rfl, hlabels'⟩ := Option.map_eq_some_iff.mp hfound
  have hcard' : around.keys.length < 4 := by simp [TypeGraph.keys, hlabels']
  obtain ⟨hagrees', hreturns'⟩ := hbuildAt (.start ()) .standard "m" ⟨0, 0⟩ _ _ ht
    ⟨"B", by decide, rfl⟩ (obliges_fork _).toAnswersBy (parentsBy_heard _ _) false 4 around v haround true
  obtain ⟨rooted, v', hrooted⟩ := hreturns' (obliges_fork _) 4 hcard'
  obtain ⟨_, ⟨⟩, hsame⟩ := hagrees' 4 _ v' hrooted
  exact ⟨g, around, h, rooted, u, u', v, v', hg, hlabels, hkeys, hh, hagrees 4 none h u' hh,
    haround, hrooted, hlabels', hsame⟩

end Hierarchy

end CodeAtlas
