import CodeAtlas.Proofs.Hierarchy.Closure
import CodeAtlas.Proofs.Listing.Unseen

namespace CodeAtlas.Hierarchy

open Client

variable {σ : Type} (w : World σ) (identity : Identity)

/-- All that the server ever answers with goes by one of these keys. -/
def Confined (known : List Label.Key) : Prop :=
  ∀ (side : Side) (params : Json) (state : σ) (reply : Json),
    (w.request side.method params state).result = .ok reply →
      ∀ item ∈ objects reply, ∀ node, TypeNode.ofJson item = .ok node →
        ∀ label, identity node = .ok label → label.key ∈ known

def room (known : List Label.Key) (g : Growth) : Nat :=
  (known.filter fun k => decide (k ∉ g.visited)).length

/-- A dialogue that breaks off in a failure of the identity or of a query. -/
def BreaksOff (e : Failure) (s u : Session σ) : Prop :=
  ∃ queries t, Dialogue w s queries t ∧
    (t = u ∧ (∃ node, identity node = .error e) ∨
      ∃ side node, outcome (related w (Side.method side) node) t = (.error e, u))

/-- More than this bound makes no difference, and no failure comes from it. -/
def Ends {α : Type} (x : Nat → Client σ α) (bound : Nat) (s : Session σ) : Prop :=
  (∀ more, outcome (x (bound + more)) s = outcome (x bound) s) ∧
    ∀ e u, outcome (x bound) s = (.error e, u) → BreaksOff w identity e s u

variable {w identity} {mode : Mode} {known : List Label.Key} {bound : Nat} {s : Session σ}

theorem room_anti {g h : Growth} (hv : g.visited ⊆ h.visited) : room known h ≤ room known g :=
  unseen_anti known hv

theorem room_visit {g : Growth} {label : Label} (hk : label.key ∈ known)
    (hv : label.key ∉ g.visited) : room known (g.visit label) < room known g :=
  unseen_lt (List.subset_cons_self label.key _) hk hv List.mem_cons_self

theorem Confined.mono {known more : List Label.Key} (h : Confined w identity known)
    (hs : known ⊆ more) : Confined w identity more :=
  fun side params state reply hr item hi node hn label hl =>
    hs (h side params state reply hr item hi node hn label hl)

theorem Confined.related (hc : Confined w identity known) {side : Side} {node : TypeNode}
    {found : List TypeNode} {s t : Session σ}
    (h : outcome (related w side.method node) s = (.ok found, t)) :
    ∀ relative ∈ found, ∀ label, identity relative = .ok label → label.key ∈ known := by
  obtain ⟨reply, u, hq, h⟩ := outcome_bind_ok.mp h
  obtain ⟨nodes, v, hn, h⟩ := outcome_bind_ok.mp h
  simp only [outcome_attempt, Prod.mk.injEq] at hn
  simp only [outcome_bind, outcome_note, outcome_pure, Prod.mk.injEq, Except.ok.injEq] at h
  obtain ⟨rfl, -⟩ := h
  intro relative hr label hl
  obtain ⟨item, hi, hj⟩ := mem_of_mapM hn.1 relative hr
  obtain hreply | rfl := (query_ok w hq).2.2
  · exact hc side _ _ reply hreply item hi relative hj label hl
  · simp [objects, entries] at hi

theorem Grows.visited {task : Task} {g grown : Growth} {queries : List Query}
    (h : Grows identity mode task g queries grown) : g.visited ⊆ grown.visited := by
  induction h with
  | known | skip | done => exact List.Subset.refl _
  | fresh _ _ _ _ ihu ihd => exact fun k hk => ihd (ihu (List.mem_cons_of_mem _ hk))
  | ask _ _ _ _ ih => exact ih
  | next _ _ _ _ ihe ihm => exact fun k hk => ihm (ihe hk)

theorem BreaksOff.after {e : Failure} {t u : Session σ} {queries : List Query}
    (hd : Dialogue w s queries t) (h : BreaksOff w identity e t u) : BreaksOff w identity e s u := by
  obtain ⟨later, v, hd', h⟩ := h
  exact ⟨queries ++ later, v, hd.append hd', h⟩

theorem ends_of_ok {α : Type} {x : Client σ α} {a : α} {t : Session σ}
    (h : outcome x s = (.ok a, t)) : Ends w identity (fun _ => x) bound s :=
  ⟨fun _ => rfl, fun e u he => by simp [h] at he⟩

theorem ends_identity (node : TypeNode) (s : Session σ) :
    Ends w identity (fun _ => attempt (identity node)) bound s := by
  refine ⟨fun _ => rfl, fun e u h => ?_⟩
  obtain ⟨he, rfl⟩ : identity node = .error e ∧ s = u := by simpa using h
  exact ⟨[], s, .nil s, .inl ⟨rfl, node, he⟩⟩

theorem ends_related (side : Side) (node : TypeNode) (s : Session σ) :
    Ends w identity (fun _ => related w side.method node) bound s :=
  ⟨fun _ => rfl, fun _ _ h => ⟨[], s, .nil s, .inr ⟨side, node, h⟩⟩⟩

theorem Ends.bind {α β : Type} {x : Nat → Client σ α} {f : Nat → α → Client σ β}
    (hx : Ends w identity x bound s)
    (hf : ∀ a t, outcome (x bound) s = (.ok a, t) →
      ∃ queries, Dialogue w s queries t ∧ Ends w identity (fun n => f n a) bound t) :
    Ends w identity (fun n => x n >>= f n) bound s := by
  refine ⟨fun more => outcome_bind_congr (hx.1 more) fun a t h => ?_, fun e u h => ?_⟩
  · obtain ⟨-, -, hends⟩ := hf a t h
    exact hends.1 more
  · obtain h | ⟨a, t, ha, h⟩ := outcome_bind_error.mp h
    · exact hx.2 e u h
    · obtain ⟨queries, hd, hends⟩ := hf a t ha
      exact .after hd (hends.2 e u h)

theorem Ends.succ {α : Type} {x : Nat → Client σ α}
    (h : Ends w identity (fun n => x (n + 1)) bound s) : Ends w identity x (bound + 1) s := by
  refine ⟨fun more => ?_, h.2⟩
  rw [Nat.add_right_comm]
  exact h.1 more

variable (w identity mode known bound) in
def Enough : Prop := ∀ {node : TypeNode} {label : Label} {g : Growth} (s : Session σ),
  identity node = .ok label → g.Ready label node → label.key ∈ known → room known g < bound →
    Ends w identity (fun n => expand w identity mode n node g) bound s

theorem Enough.meetAll (hb : Enough w identity mode known bound) {side : Side} {label : Label}
    {found : List TypeNode}
    (hk : ∀ relative ∈ found, ∀ other, identity relative = .ok other → other.key ∈ known)
    {g : Growth} (s : Session σ) (hs : g.Settled) (hr : room known g < bound) :
    Ends w identity (fun n => meetAll w identity mode n side label found g) bound s := by
  induction found generalizing g s with
  | nil => exact ends_of_ok (outcome_pure g s)
  | cons relative rest ih =>
      obtain ⟨hfirst, hrest⟩ := List.forall_mem_cons.mp hk
      simp only [meetAll_cons]
      refine (ends_identity relative s).bind fun other t ho => ⟨[], ?_⟩
      obtain ⟨hl, rfl⟩ : identity relative = .ok other ∧ s = t := by simpa using ho
      refine ⟨.nil s, ?_⟩
      have hready := hs.ready_meet other relative (side.edge label other)
      refine (hb s hl hready (hfirst other hl) hr).bind fun mid t he => ?_
      obtain ⟨queries, hd, hg⟩ := sound w identity mode bound hl hready he
      refine ⟨queries, hd, ih hrest t hg.settled ?_⟩
      exact Nat.lt_of_le_of_lt (room_anti hg.visited) hr

theorem Enough.follow (hb : Enough w identity mode known bound)
    (hc : Confined w identity known) (side : Side) (label : Label) (node : TypeNode) {g : Growth}
    (s : Session σ) (hs : g.Settled) (hr : room known g < bound) :
    Ends w identity (fun n => follow w identity mode n side node label g) bound s := by
  cases hf : mode.follows side with
  | false =>
      simp only [Hierarchy.follow, hf]
      exact ends_of_ok (outcome_pure g s)
  | true =>
      simp only [Hierarchy.follow, hf, if_true]
      refine (ends_related side node s).bind fun found t hq => ?_
      exact ⟨[⟨side, node, found⟩], .cons hq (.nil t), hb.meetAll (hc.related hq) t hs hr⟩

/-- By induction on the bound: a label that is not visited yet takes up room,
so one less is enough for all that it leads to. -/
theorem enough (hc : Confined w identity known) (mode : Mode) (bound : Nat) :
    Enough w identity mode known bound := by
  induction bound with
  | zero => intro _ _ _ _ _ _ _ hr; omega
  | succ bound ih =>
      intro node label g s hl hready hk hr
      apply Ends.succ
      simp only [expand_succ]
      refine (ends_identity node s).bind fun other t ho => ⟨[], ?_⟩
      obtain ⟨rfl, rfl⟩ : label = other ∧ s = t := by simpa [hl] using ho
      refine ⟨.nil s, ?_⟩
      by_cases hv : label.key ∈ g.visited
      · simp only [hv, if_true]
        exact ends_of_ok (outcome_pure g s)
      · simp only [hv, if_false]
        have hw : g.Awaits label node := hready.resolve_left fun h => hv h.1
        have hroom : room known (g.visit label) < bound := by
          have := room_visit hk hv
          omega
        refine (ih.follow hc .above label node s hw.settled_visit hroom).bind fun above t hu => ?_
        obtain ⟨queries, hd, hg⟩ :=
          Sound.follow (sound w identity mode bound) hl hw.settled_visit hw.mem hu
        refine ⟨queries, hd, ih.follow hc .below label node t hg.settled ?_⟩
        exact Nat.lt_of_le_of_lt (room_anti hg.visited) hroom

theorem build_ends (hc : Confined w identity known) (s : Session σ) (node : TypeNode)
    (mode : Mode) (focus : Option Label) :
    Ends w identity (fun n => build w identity n node mode focus) (known.length + 2) s := by
  refine (ends_identity (rootFor mode node) s).bind fun label t ho => ⟨[], ?_⟩
  obtain ⟨hl, rfl⟩ : identity (rootFor mode node) = .ok label ∧ s = t := by simpa using ho
  refine ⟨.nil s, ?_⟩
  have hready : (seed label focus (rootFor mode node)).Ready label (rootFor mode node) :=
    .inr (awaits_seed label focus _)
  have hroom : room (label.key :: known) (seed label focus (rootFor mode node)) <
      known.length + 2 := Nat.lt_succ_of_le (List.length_filter_le _ _)
  have henough := enough (hc.mono (List.subset_cons_self label.key known)) mode _ s hl hready
    List.mem_cons_self hroom
  refine henough.bind fun grown t he => ?_
  obtain ⟨queries, hd, -⟩ := sound w identity mode _ hl hready he
  exact ⟨queries, hd, ends_of_ok rfl⟩

end CodeAtlas.Hierarchy
