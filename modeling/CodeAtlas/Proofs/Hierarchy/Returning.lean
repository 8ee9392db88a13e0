import CodeAtlas.Proofs.Hierarchy.Ending
import CodeAtlas.Proofs.Hierarchy.Kinship

namespace CodeAtlas.Hierarchy

open Client

variable {σ : Type} (w : World σ) (identity : Identity) (among : TypeNode → Prop) (kin : Kinship)
  (mode : Mode) (known : List Label.Key)

/-- A server that answers by a relation, about nodes that all have labels, and
does answer each query. -/
structure Obliges (s : Session σ) : Prop extends AnswersBy w identity among kin s where
  labelled : ∀ node, among node → ∃ label, identity node = .ok label
  answers : ∀ queries t, Dialogue w s queries t → ∀ node, among node → ∀ side, ∃ found u,
    outcome (related w (Side.method side) node) t = (.ok found, u)

def Closed : Prop := ∀ a ∈ known, ∀ b, Leads kin mode a b → b ∈ known

/-- An expansion with this bound returns where there is less room than it. -/
def Suffices (bound : Nat) : Prop := ∀ {node : TypeNode} {label : Label} {g : Growth}
  {s : Session σ}, Obliges w identity among kin s → among node → identity node = .ok label →
    g.Ready label node → label.key ∈ known → room known g < bound →
      ∃ grown t, outcome (expand w identity mode bound node g) s = (.ok grown, t)

variable {w identity among kin mode known} {s t : Session σ} {bound : Nat}

theorem Obliges.after {queries : List Query} (hs : Obliges w identity among kin s)
    (hd : Dialogue w s queries t) : Obliges w identity among kin t where
  toAnswersBy := hs.toAnswersBy.after hd
  labelled := hs.labelled
  answers later u hu := hs.answers (queries ++ later) u (hd.append hu)

theorem Suffices.meetAll (hb : Suffices w identity among kin mode known bound) (side : Side)
    (label : Label) {found : List TypeNode} {g : Growth} (hs : Obliges w identity among kin s)
    (hfound : ∀ relative ∈ found, among relative ∧
      ∃ other, identity relative = .ok other ∧ other.key ∈ known)
    (hg : g.Settled) (hr : room known g < bound) :
    ∃ grown t, outcome (meetAll w identity mode bound side label found g) s = (.ok grown, t) := by
  induction found generalizing g s with
  | nil => exact ⟨g, s, rfl⟩
  | cons relative rest ih =>
      obtain ⟨⟨ha, other, hl, hk⟩, hrest⟩ := List.forall_mem_cons.mp hfound
      have hready := hg.ready_meet other relative (side.edge label other)
      obtain ⟨mid, t, he⟩ := hb hs ha hl hready hk hr
      obtain ⟨queries, hd, hgrows⟩ := sound w identity mode bound hl hready he
      obtain ⟨grown, u, hm⟩ := ih (hs.after hd) hrest hgrows.settled
        (Nat.lt_of_le_of_lt (room_anti hgrows.visited) hr)
      refine ⟨grown, u, ?_⟩
      rw [meetAll_cons]
      exact outcome_bind_ok.mpr
        ⟨other, s, by rw [outcome_attempt, hl], outcome_bind_ok.mpr ⟨mid, t, he, hm⟩⟩

theorem Suffices.follow (hb : Suffices w identity among kin mode known bound)
    (hclosed : Closed kin mode known) (side : Side) {node : TypeNode} {label : Label} {g : Growth}
    (hs : Obliges w identity among kin s) (ha : among node) (hl : identity node = .ok label)
    (hk : label.key ∈ known) (hg : g.Settled) (hr : room known g < bound) :
    ∃ grown t, outcome (follow w identity mode bound side node label g) s = (.ok grown, t) := by
  unfold Hierarchy.follow
  split
  next hf =>
    obtain ⟨found, t, hq⟩ := hs.answers [] s (.nil s) node ha side
    have hd : Dialogue w s [⟨side, node, found⟩] t := .cons hq (.nil t)
    have hfound : ∀ relative ∈ found, among relative ∧
        ∃ other, identity relative = .ok other ∧ other.key ∈ known := by
      intro relative hm
      obtain ⟨ha', hkin⟩ := hs.of_found hq ha hl relative hm
      obtain ⟨other, ho⟩ := hs.labelled relative ha'
      exact ⟨ha', other, ho, hclosed label.key hk other.key ⟨side, hf, hkin other ho⟩⟩
    obtain ⟨grown, u, hm⟩ := hb.meetAll side label (hs.after hd) hfound hg hr
    exact ⟨grown, u, outcome_bind_ok.mpr ⟨found, t, hq, hm⟩⟩
  next => exact ⟨g, s, rfl⟩

/-- By induction on the bound: a label that is not visited yet takes up room,
so one less is enough for all that it leads to. -/
theorem suffices_bound (hclosed : Closed kin mode known) (bound : Nat) :
    Suffices w identity among kin mode known bound := by
  induction bound with
  | zero => intro _ _ _ _ _ _ _ _ _ hr; omega
  | succ bound ih =>
      intro node label g s hs ha hl hready hk hr
      simp only [expand_succ, outcome_bind, outcome_attempt, hl]
      by_cases hv : label.key ∈ g.visited
      · simp only [hv, if_true]
        exact ⟨g, s, rfl⟩
      · simp only [hv, if_false]
        have hw : g.Awaits label node := hready.resolve_left fun h => hv h.1
        have hroom : room known (g.visit label) < bound := by
          have := room_visit hk hv
          omega
        obtain ⟨above, t, hu⟩ := ih.follow hclosed .above hs ha hl hk hw.settled_visit hroom
        obtain ⟨queries, hd, hgrows⟩ :=
          Sound.follow (sound w identity mode bound) hl hw.settled_visit hw.mem hu
        obtain ⟨grown, u, hd'⟩ := ih.follow hclosed .below (hs.after hd) ha hl hk hgrows.settled
          (Nat.lt_of_le_of_lt (room_anti hgrows.visited) hroom)
        exact ⟨grown, u, outcome_bind_ok.mpr ⟨above, t, hu, hd'⟩⟩

theorem build_returns (hs : Obliges w identity among kin s) {node : TypeNode}
    (ha : among (rootFor mode node)) {label : Label} (hl : identity (rootFor mode node) = .ok label)
    (hclosed : Closed kin mode known) (hk : label.key ∈ known) (hb : known.length < bound)
    (focus : Option Label) :
    ∃ g u, outcome (build w identity bound node mode focus) s = (.ok g, u) := by
  have hready : (seed label focus (rootFor mode node)).Ready label (rootFor mode node) :=
    .inr (awaits_seed label focus _)
  have hroom : room known (seed label focus (rootFor mode node)) < bound :=
    Nat.lt_of_le_of_lt (List.length_filter_le _ _) hb
  obtain ⟨grown, t, he⟩ := suffices_bound hclosed bound hs ha hl hready hk hroom
  refine ⟨grown.graph, reported mode label grown.graph t, outcome_bind_ok.mpr
    ⟨label, s, by rw [outcome_attempt, hl], outcome_bind_ok.mpr ⟨grown, t, he, rfl⟩⟩⟩

end CodeAtlas.Hierarchy
