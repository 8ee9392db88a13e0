import CodeAtlas.Proofs.Hierarchy.Once
import Mathlib.Data.List.Nodup

namespace CodeAtlas

namespace TypeNode

variable {node parent : TypeNode} {parents rest : List TypeNode}

theorem findRoot_root (h : node.parents = some []) : node.findRoot = node := by
  cases node
  subst h
  rfl

theorem findRoot_first (h : node.parents = some (parent :: rest)) :
    node.findRoot = parent.findRoot := by
  cases node
  subst h
  rfl

theorem sizeOf_parent (h : node.parents = some parents) (hm : parent ∈ parents) :
    sizeOf parent < sizeOf node := by
  have := List.sizeOf_lt_of_mem hm
  cases node
  subst h
  simp
  omega

end TypeNode

namespace Hierarchy

open Client

variable {σ : Type} {w : World σ} {identity : Identity}

def askedFor (node : TypeNode) (parents : List TypeNode) : List Query :=
  match node.parents with
  | some _ => []
  | none => [⟨.above, node, parents⟩]

/-- These are the parents that a node carries, if it carries any. -/
def Carries (node : TypeNode) (parents : List TypeNode) : Prop :=
  ∀ carried, node.parents = some carried → parents = carried

/-- A node on the way up, with its label and its parents. -/
structure Rung where
  node : TypeNode
  label : Label
  parents : List TypeNode

def Rung.key (r : Rung) : Label.Key := r.label.key

def Rung.queries (r : Rung) : List Query := askedFor r.node r.parents

/-- Nodes under different labels, from one on, each the first parent of the
node before it. -/
structure IsLadder (identity : Identity) (node : TypeNode) (rungs : List Rung) : Prop where
  start : rungs.head?.map Rung.node = some node
  labelled : ∀ r ∈ rungs, identity r.node = .ok r.label
  carried : ∀ r ∈ rungs, Carries r.node r.parents
  climbs : rungs.IsChain fun r next => r.parents.head? = some next.node
  distinct : (rungs.map Rung.key).Nodup

variable {seen : List Label.Key} {r : Rung} {rungs : List Rung} {node : TypeNode}
  {parents : List TypeNode} {s t u : Session σ}

theorem parentsOf_ok_iff : outcome (parentsOf w node) s = (.ok parents, t) ↔
    Carries node parents ∧ Dialogue w s (askedFor node parents) t := by
  cases hp : node.parents with
  | some carried =>
      simp only [parentsOf, hp, askedFor, Carries, outcome_pure, Prod.mk.injEq, Except.ok.injEq,
        Option.some.injEq, forall_eq']
      constructor
      · rintro ⟨rfl, rfl⟩
        exact ⟨rfl, .nil s⟩
      · rintro ⟨rfl, hd⟩
        cases hd
        exact ⟨rfl, rfl⟩
  | none =>
      simp only [parentsOf, hp, askedFor, Carries]
      constructor
      · intro h
        exact ⟨by simp, .cons h (.nil t)⟩
      · rintro ⟨-, hd⟩
        cases hd with
        | cons first later =>
            cases later
            exact first

theorem parentsOf_carried (hc : Carries node parents) (h : node.parents.isSome = true)
    (s : Session σ) :
    outcome (parentsOf w node) s = (.ok parents, s) ∧ node.parents = some parents := by
  obtain ⟨carried, hp⟩ := Option.isSome_iff_exists.mp h
  obtain rfl := hc carried hp
  have hnone : askedFor node parents = [] := by simp [askedFor, hp]
  exact ⟨parentsOf_ok_iff.mpr ⟨hc, hnone ▸ .nil s⟩, hp⟩

def turnedBack (other : Label) (t : Session σ) : Session σ :=
  { t with log := t.log ++ [⟨.debug, .types, cycleNote other⟩] }

/-- A climb without a bound, by the rungs that it took. -/
inductive Climbs (w : World σ) (identity : Identity) :
    List Label.Key → Rung → Session σ → List Rung → Session σ → Prop
  | root {seen : List Label.Key} {r : Rung} {s t : Session σ}
      (hp : outcome (parentsOf w r.node) s = (.ok r.parents, t)) (hnone : r.parents = []) :
      Climbs w identity seen r s [r] t
  | cycle {seen : List Label.Key} {r : Rung} {s t : Session σ} {parent : TypeNode} {other : Label}
      (hp : outcome (parentsOf w r.node) s = (.ok r.parents, t))
      (hf : r.parents.head? = some parent) (hl : identity parent = .ok other)
      (hk : other.key ∈ seen) : Climbs w identity seen r s [r] (turnedBack other t)
  | step {seen : List Label.Key} {r next : Rung} {rungs : List Rung} {s t u : Session σ}
      (hp : outcome (parentsOf w r.node) s = (.ok r.parents, t))
      (hf : r.parents.head? = some next.node) (hl : identity next.node = .ok next.label)
      (hk : next.key ∉ seen) (hc : Climbs w identity (next.key :: seen) next t rungs u) :
      Climbs w identity seen r s (r :: rungs) u

theorem climb_climbs {bound : Nat} {top : TypeNode} (label : Label)
    (h : outcome (climb w identity bound seen node) s = (.ok top, u)) :
    ∃ parents rungs last, Climbs w identity seen ⟨node, label, parents⟩ s rungs u ∧
      rungs.getLast? = some last ∧ last.node = top := by
  induction bound generalizing seen node label s with
  | zero => simp [climb] at h
  | succ bound ih =>
      obtain ⟨parents, t, hparents, h⟩ := outcome_bind_ok.mp h
      refine ⟨parents, ?_⟩
      cases parents with
      | nil =>
          simp only [outcome_pure, Prod.mk.injEq, Except.ok.injEq] at h
          obtain ⟨rfl, rfl⟩ := h
          exact ⟨_, _, .root hparents rfl, rfl, rfl⟩
      | cons parent rest =>
          obtain ⟨other, t', hl, h⟩ := outcome_bind_ok.mp h
          simp only [outcome_attempt, Prod.mk.injEq] at hl
          obtain ⟨hl, rfl⟩ := hl
          split at h
          next hk =>
            simp only [outcome_bind, outcome_note, outcome_pure, Prod.mk.injEq,
              Except.ok.injEq] at h
            obtain ⟨rfl, rfl⟩ := h
            exact ⟨_, _, .cycle hparents rfl hl hk, rfl, rfl⟩
          next hk =>
            obtain ⟨above, rungs, last, hc, hlast, htop⟩ := ih other h
            let next : Rung := ⟨parent, other, above⟩
            have hn : identity next.node = .ok next.label := hl
            refine ⟨_, last, .step hparents rfl hn hk hc, ?_, htop⟩
            simp [List.getLast?_cons, hlast]

namespace Climbs

theorem head (h : Climbs w identity seen r s rungs u) : ∃ more, rungs = r :: more := by
  cases h with
  | root | cycle | step => exact ⟨_, rfl⟩

theorem climb (h : Climbs w identity seen r s rungs u) {bound : Nat} (hb : rungs.length ≤ bound) :
    ∃ last, rungs.getLast? = some last ∧
      outcome (climb w identity bound seen r.node) s = (.ok last.node, u) := by
  induction h generalizing bound with
  | root hp hnone =>
      obtain ⟨bound, rfl⟩ := Nat.exists_eq_add_of_le' hb
      rw [hnone] at hp
      exact ⟨_, rfl, outcome_bind_ok.mpr ⟨_, _, hp, rfl⟩⟩
  | @cycle seen r s t parent other hp hf hl hk =>
      obtain ⟨bound, rfl⟩ := Nat.exists_eq_add_of_le' hb
      obtain ⟨rest, hparents⟩ := List.head?_eq_some_iff.mp hf
      rw [hparents] at hp
      refine ⟨r, rfl, outcome_bind_ok.mpr ⟨_, _, hp, ?_⟩⟩
      simp only [outcome_bind, outcome_attempt, hl, hk, if_true]
      rfl
  | @step seen r next rungs s t u hp hf hl hk _ ih =>
      rw [List.length_cons] at hb
      obtain ⟨bound, rfl⟩ := Nat.exists_eq_add_of_le' (Nat.le_of_add_left_le hb)
      obtain ⟨last, hlast, hclimb⟩ := ih (Nat.le_of_succ_le_succ hb)
      obtain ⟨rest, hparents⟩ := List.head?_eq_some_iff.mp hf
      rw [hparents] at hp
      have hfresh : next.label.key ∉ seen := hk
      refine ⟨last, by simp [List.getLast?_cons, hlast], outcome_bind_ok.mpr ⟨_, _, hp, ?_⟩⟩
      simp only [outcome_bind, outcome_attempt, hl, hfresh, if_false]
      exact hclimb

theorem isLadder (h : Climbs w identity seen r s rungs u) (hl : identity r.node = .ok r.label)
    (hk : r.key ∈ seen) : IsLadder identity r.node rungs ∧ ∀ m ∈ rungs.tail, m.key ∉ seen := by
  induction h with
  | root hp | cycle hp =>
      refine ⟨⟨rfl, ?_, ?_, .singleton _, List.nodup_singleton _⟩, by simp⟩
      · simpa using hl
      · simpa using (parentsOf_ok_iff.mp hp).1
  | @step seen r next rungs s t u hp hf hn hfresh hc ih =>
      obtain ⟨hladder, htail⟩ := ih hn List.mem_cons_self
      obtain ⟨more, rfl⟩ := hc.head
      have hmore : ∀ m ∈ next :: more, m.key ∉ seen := by
        refine List.forall_mem_cons.mpr ⟨hfresh, fun m hm hs => ?_⟩
        exact htail m hm (List.mem_cons_of_mem _ hs)
      refine ⟨⟨rfl, ?_, ?_, ?_, ?_⟩, hmore⟩
      · exact List.forall_mem_cons.mpr ⟨hl, hladder.labelled⟩
      · exact List.forall_mem_cons.mpr ⟨(parentsOf_ok_iff.mp hp).1, hladder.carried⟩
      · exact List.isChain_cons_cons.mpr ⟨hf, hladder.climbs⟩
      · -- the label that the climb comes from was seen, so no rung above has it
        refine List.nodup_cons.mpr ⟨fun hm => ?_, hladder.distinct⟩
        obtain ⟨m, hm, he⟩ := List.mem_map.mp hm
        exact hmore m hm (he ▸ hk)

end Climbs

/-- A climb stops at a rung without parents, or below a label it came from. -/
inductive Stops (identity : Identity) (keys : List Label.Key) (last : Rung) (t : Session σ) :
    Session σ → Prop
  | root (hnone : last.parents = []) : Stops identity keys last t t
  | cycle {parent : TypeNode} {other : Label} (hf : last.parents.head? = some parent)
      (hl : identity parent = .ok other) (hk : other.key ∈ keys) :
      Stops identity keys last t (turnedBack other t)

theorem Stops.mono {keys more : List Label.Key} {last : Rung}
    (h : Stops identity keys last t u) (hs : keys ⊆ more) : Stops identity more last t u := by
  cases h with
  | root hnone => exact .root hnone
  | cycle hf hl hk => exact .cycle hf hl (hs hk)

theorem Stops.traffic {keys : List Label.Key} {last : Rung}
    (h : Stops identity keys last t u) : u.traffic = t.traffic := by
  cases h <;> rfl

namespace Climbs

theorem dialogue (h : Climbs w identity seen r s rungs u) : ∃ last t,
    rungs.getLast? = some last ∧ Dialogue w s (rungs.flatMap Rung.queries) t ∧
      Stops identity (seen ++ rungs.map Rung.key) last t u := by
  induction h with
  | @root _ r _ t hp hnone =>
      refine ⟨r, t, rfl, ?_, .root hnone⟩
      simpa [Rung.queries] using (parentsOf_ok_iff.mp hp).2
  | @cycle _ r _ t _ _ hp hf hl hk =>
      refine ⟨r, t, rfl, ?_, .cycle hf hl (List.mem_append_left _ hk)⟩
      simpa [Rung.queries] using (parentsOf_ok_iff.mp hp).2
  | @step seen r next rungs s t u hp _ _ _ hc ih =>
      obtain ⟨last, v, hlast, hd, hstop⟩ := ih
      obtain ⟨more, rfl⟩ := hc.head
      refine ⟨last, v, by simpa [List.getLast?_cons] using hlast,
        (parentsOf_ok_iff.mp hp).2.append hd, hstop.mono ?_⟩
      -- what was seen on the way is the labels of the rungs
      intro k hk
      simp only [List.map_cons, List.cons_append, List.mem_cons, List.mem_append] at hk ⊢
      tauto

end Climbs

theorem IsLadder.above {next : Rung} {more : List Rung}
    (h : IsLadder identity node (r :: next :: more)) : IsLadder identity next.node (next :: more) where
  start := rfl
  labelled := (List.forall_mem_cons.mp h.labelled).2
  carried := (List.forall_mem_cons.mp h.carried).2
  climbs := (List.isChain_cons_cons.mp h.climbs).2
  distinct := (List.nodup_cons.mp h.distinct).2

theorem IsLadder.climbs_carried {last : Rung} (h : IsLadder identity node (r :: rungs))
    (hcarry : ∀ m ∈ r :: rungs, m.node.parents.isSome = true)
    (hlast : (r :: rungs).getLast? = some last) (hnone : last.parents = [])
    (hseen : ∀ m ∈ rungs, m.key ∉ seen) (s : Session σ) :
    Climbs w identity seen r s (r :: rungs) s ∧ r.node.findRoot = last.node := by
  induction rungs generalizing r node seen with
  | nil =>
      obtain rfl : r = last := by simpa using hlast
      obtain ⟨hp, hparents⟩ := parentsOf_carried (w := w) (h.carried r List.mem_cons_self)
        (hcarry r List.mem_cons_self) s
      exact ⟨.root hp hnone, TypeNode.findRoot_root (hnone ▸ hparents)⟩
  | cons next more ih =>
      obtain ⟨hr, hrest⟩ := List.forall_mem_cons.mp hcarry
      obtain ⟨hp, hparents⟩ := parentsOf_carried (w := w) (h.carried r List.mem_cons_self) hr s
      obtain ⟨hfresh, hmore⟩ := List.forall_mem_cons.mp hseen
      obtain ⟨hf, -⟩ := List.isChain_cons_cons.mp h.climbs
      have hn : identity next.node = .ok next.label := h.above.labelled next List.mem_cons_self
      have hnew : ∀ m ∈ more, m.key ∉ next.key :: seen := by
        intro m hm hk
        obtain he | hk := List.mem_cons.mp hk
        · exact (List.nodup_cons.mp h.above.distinct).1 (he ▸ List.mem_map_of_mem hm)
        · exact hmore m hm hk
      obtain ⟨hc, hroot⟩ := ih h.above hrest (by simpa [List.getLast?_cons] using hlast) hnew
      obtain ⟨others, hothers⟩ := List.head?_eq_some_iff.mp hf
      refine ⟨.step hp hf hn hfresh hc, ?_⟩
      rw [TypeNode.findRoot_first (hparents.trans (congrArg some hothers)), hroot]

theorem ends_parentsOf (node : TypeNode) (bound : Nat) (s : Session σ) :
    Ends w identity (fun _ => parentsOf w node) bound s := by
  unfold parentsOf
  split
  · exact ends_of_ok (outcome_pure _ s)
  · exact ends_related .above node s

theorem exists_ends_bind {α β : Type} {x : Client σ α} {f : Nat → α → Client σ β}
    (hx : ∀ bound, Ends w identity (fun _ => x) bound s)
    (hf : ∀ a t, outcome x s = (.ok a, t) → ∃ queries, Dialogue w s queries t ∧
      ∃ bound, Ends w identity (fun n => f n a) bound t) :
    ∃ bound, Ends w identity (fun n => x >>= f n) bound s := by
  rcases h : outcome x s with ⟨e | a, t⟩
  · exact ⟨0, (hx 0).bind fun a t ha => by simp [h] at ha⟩
  · obtain ⟨queries, hd, bound, hends⟩ := hf a t h
    refine ⟨bound, (hx bound).bind fun a' t' ha => ⟨queries, ?_⟩⟩
    obtain ⟨rfl, rfl⟩ : a = a' ∧ t = t' := by simpa [h] using ha
    exact ⟨hd, hends⟩

theorem climb_descends {known : List Label.Key} (hc : Confined w identity known)
    {parent : TypeNode} {other : Label} (hp : outcome (parentsOf w node) s = (.ok parents, t))
    (hm : parent ∈ parents) (hl : identity parent = .ok other) (hk : other.key ∉ seen) :
    Prod.Lex (· < ·) (· < ·) (unseen known (other.key :: seen), sizeOf parent)
      (unseen known seen, sizeOf node) := by
  have hseen : seen ⊆ other.key :: seen := List.subset_cons_self _ _
  cases hcarried : node.parents with
  | some carried =>
      obtain rfl := (parentsOf_ok_iff.mp hp).1 carried hcarried
      exact Prod.Lex.right' _ (unseen_anti known hseen) (TypeNode.sizeOf_parent hcarried hm)
  | none =>
      simp only [parentsOf, hcarried] at hp
      have hfound : outcome (related w Side.above.method node) s = (.ok parents, t) := hp
      have hknown : other.key ∈ known := hc.related hfound parent hm other hl
      exact .left _ _ (unseen_lt hseen hknown hk List.mem_cons_self)

theorem climb_ends {known : List Label.Key} (hc : Confined w identity known)
    (seen : List Label.Key) (node : TypeNode) (s : Session σ) :
    ∃ bound, Ends w identity (fun n => climb w identity n seen node) bound s := by
  suffices h : ∃ bound, Ends w identity (fun n => climb w identity (n + 1) seen node) bound s from
    let ⟨bound, hends⟩ := h
    ⟨bound + 1, hends.succ⟩
  refine exists_ends_bind (fun bound => ends_parentsOf node bound s) fun parents t hp => ?_
  refine ⟨_, (parentsOf_ok_iff.mp hp).2, ?_⟩
  cases parents with
  | nil => exact ⟨0, ends_of_ok (outcome_pure node t)⟩
  | cons parent rest =>
      refine exists_ends_bind (fun bound => ends_identity parent t) fun other t' ho => ?_
      obtain ⟨hl, rfl⟩ : identity parent = .ok other ∧ t = t' := by simpa using ho
      refine ⟨[], .nil t, ?_⟩
      by_cases hk : other.key ∈ seen
      · simp only [hk, if_true]
        exact ⟨0, ends_of_ok rfl⟩
      · simp only [hk, if_false]
        exact climb_ends hc (other.key :: seen) parent t
termination_by (unseen known seen, sizeOf node)
decreasing_by exact climb_descends hc hp List.mem_cons_self hl hk

theorem climbToRoot_ends {known : List Label.Key} (hc : Confined w identity known)
    (node : TypeNode) (s : Session σ) :
    ∃ bound, Ends w identity (fun n => climbToRoot w identity n node) bound s := by
  refine exists_ends_bind (fun _ => ends_identity node s) fun label t hl => ?_
  obtain ⟨-, rfl⟩ : identity node = .ok label ∧ s = t := by simpa using hl
  exact ⟨[], .nil s, climb_ends hc [label.key] node s⟩

variable (w identity) in
/-- A climb ends if the server knows finitely many labels. One that gives a root
went up a ladder to it, and asked for the parents of each node on the ladder that
does not carry them. A ladder whose nodes all carry theirs it goes up by itself,
to the node without parents at its end. -/
theorem climbToRoot_ladder (node : TypeNode) :
    (∀ known, Confined w identity known → ∀ s, ∃ bound,
      (∀ more, outcome (climbToRoot w identity (bound + more) node) s =
        outcome (climbToRoot w identity bound node) s) ∧
      ∀ e u, outcome (climbToRoot w identity bound node) s = (.error e, u) →
        BreaksOff w identity e s u) ∧
    (∀ bound s top u, outcome (climbToRoot w identity bound node) s = (.ok top, u) →
      ∃ rungs last t, IsLadder identity node rungs ∧ rungs.getLast? = some last ∧
        last.node = top ∧ Stops identity (rungs.map Rung.key) last t u ∧
        Dialogue w s (rungs.flatMap Rung.queries) t ∧
        u.traffic = s.traffic ++ (rungs.flatMap Rung.queries).map Query.sent) ∧
    ∀ rungs last, IsLadder identity node rungs →
      (∀ r ∈ rungs, r.node.parents.isSome = true) → rungs.getLast? = some last →
        last.parents = [] → ∀ bound s, rungs.length ≤ bound →
          outcome (climbToRoot w identity bound node) s = (.ok node.findRoot, s) := by
  refine ⟨fun known hc s => climbToRoot_ends hc node s, ?_, ?_⟩
  · intro bound s top u h
    obtain ⟨label, s', hl, h⟩ := outcome_bind_ok.mp h
    simp only [outcome_attempt, Prod.mk.injEq] at hl
    obtain ⟨hl, rfl⟩ := hl
    obtain ⟨parents, rungs, last, hc, hlast, htop⟩ := climb_climbs label h
    obtain ⟨hladder, -⟩ := hc.isLadder hl List.mem_cons_self
    obtain ⟨last', t, hlast', hd, hstop⟩ := hc.dialogue
    obtain rfl : last = last' := Option.some.inj (hlast.symm.trans hlast')
    obtain ⟨more, rfl⟩ := hc.head
    refine ⟨_, last, t, hladder, hlast, htop, hstop.mono ?_, hd, ?_⟩
    · simp [Rung.key]
    · rw [hstop.traffic, hd.traffic]
  · intro rungs last h hcarry hlast hnone bound s hb
    cases rungs with
    | nil => simp at hlast
    | cons r rungs =>
        obtain rfl : r.node = node := by simpa using h.start
        have hl := h.labelled r List.mem_cons_self
        have hfresh : ∀ m ∈ rungs, m.key ∉ [r.label.key] := by
          intro m hm hk
          obtain he : m.key = r.key := List.mem_singleton.mp hk
          exact (List.nodup_cons.mp h.distinct).1 (he ▸ List.mem_map_of_mem hm)
        obtain ⟨hc, hroot⟩ := h.climbs_carried (w := w) hcarry hlast hnone hfresh s
        obtain ⟨last', hlast', hclimb⟩ := hc.climb hb
        obtain rfl : last = last' := Option.some.inj (hlast.symm.trans hlast')
        refine outcome_bind_ok.mpr ⟨r.label, s, by simp [hl], ?_⟩
        rw [hclimb, hroot]

def carrying (name : String) (parents : List TypeNode) : TypeNode :=
  { TypeNode.named name with parents := some parents }

def parentless : TypeNode := carrying "A" []

def derived : TypeNode := carrying "B" [parentless, TypeNode.named "C"]

def stepsUp : List Rung :=
  [⟨derived, .text "B", [parentless, .named "C"]⟩, ⟨parentless, .text "A", []⟩]

theorem isLadder_stepsUp : IsLadder Identity.byName derived stepsUp where
  start := rfl
  labelled := List.forall_mem_cons.mpr ⟨rfl, List.forall_mem_singleton.mpr rfl⟩
  carried := by
    refine List.forall_mem_cons.mpr ⟨?_, List.forall_mem_singleton.mpr ?_⟩
    all_goals exact fun _ h => Option.some.inj h
  climbs := .cons_cons rfl (.singleton _)
  distinct := by decide

theorem climbToRoot_ladder_pair :
    (∃ bound, ∀ e u,
      outcome (climbToRoot (answering pair) Identity.byName bound (.named "C")) (.start ()) =
        (.error e, u) → BreaksOff (answering pair) Identity.byName e (.start ()) u) ∧
    (∃ root u rungs last t,
      outcome (climbToRoot (answering pair) Identity.byName 2 (.named "C")) (.start ()) =
        (.ok root, u) ∧ Identity.byName root = .ok (.text "A") ∧
      IsLadder Identity.byName (.named "C") rungs ∧ rungs.getLast? = some last ∧
      last.node = root ∧ Stops Identity.byName (rungs.map Rung.key) last t u ∧
      Dialogue (answering pair) (.start ()) (rungs.flatMap Rung.queries) t) ∧
    ∀ s, outcome (climbToRoot (answering pair) Identity.byName 2 derived) s =
      (.ok parentless, s) := by
  obtain ⟨hends, -, -⟩ := climbToRoot_ladder (answering pair) Identity.byName (.named "C")
  refine ⟨?_, ?_, fun s => ?_⟩
  · obtain ⟨bound, -, hb⟩ := hends _ confined_pair (.start ())
    exact ⟨bound, hb⟩
  · obtain ⟨root, u, h, hroot⟩ : ∃ root u,
        outcome (climbToRoot (answering pair) Identity.byName 2 (.named "C")) (.start ()) =
          (.ok root, u) ∧ Identity.byName root = .ok (.text "A") := ⟨_, _, rfl, rfl⟩
    obtain ⟨-, hladder, -⟩ := climbToRoot_ladder (answering pair) Identity.byName (.named "C")
    obtain ⟨rungs, last, t, hl, hlast, hnode, hstop, hd, -⟩ := hladder 2 _ root u h
    exact ⟨root, u, rungs, last, t, h, hroot, hl, hlast, hnode, hstop, hd⟩
  · obtain ⟨-, -, hcarried⟩ := climbToRoot_ladder (answering pair) Identity.byName derived
    refine hcarried stepsUp ⟨parentless, .text "A", []⟩ isLadder_stepsUp ?_ rfl rfl 2 s
      (Nat.le_refl 2)
    exact List.forall_mem_cons.mpr ⟨rfl, List.forall_mem_singleton.mpr rfl⟩

end Hierarchy

end CodeAtlas
