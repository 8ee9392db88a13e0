import CodeAtlas.Proofs.Client.Outcome
import Mathlib.Logic.Relation

namespace CodeAtlas.Client

variable {σ α β : Type}

/-- Requests are limited to those allowed after all that was sent before. -/
inductive Step (allowed : List Sent → Sent → Prop) (s t : Session σ) : Prop
  | rest (texts : t.texts = s.texts) (traffic : t.traffic = s.traffic)
  | ask (m : Sent) (other : m.method ≠ openMethod) (ok : allowed s.traffic m)
      (texts : t.texts = s.texts) (traffic : t.traffic = s.traffic ++ [m])
  | announce (uri language text : String) (fresh : s.texts.lookup uri = none)
      (texts : t.texts = s.texts ++ [(uri, text)])
      (traffic : t.traffic = s.traffic ++ [⟨openMethod, openParams uri language text⟩])
  | refused (uri language text : String) (fresh : s.texts.lookup uri = none)
      (texts : t.texts = s.texts)
      (traffic : t.traffic = s.traffic ++ [⟨openMethod, openParams uri language text⟩])

def Steps (allowed : List Sent → Sent → Prop) : Session σ → Session σ → Prop :=
  Relation.ReflTransGen (Step allowed)

/-- Whatever a client did before, in whatever world, and the world by itself. -/
def Reachable (s : Session σ) : Prop := ∃ world, Steps (fun _ _ => True) (.start world) s

def Announces (uri text : String) (m : Sent) : Prop :=
  ∃ language, m = ⟨openMethod, openParams uri language text⟩

def LastAnnounced (uri text : String) (traffic : List Sent) : Prop :=
  ∃ before m after, traffic = before ++ m :: after ∧ Announces uri text m ∧
    ∀ later ∈ after, ∀ other, ¬ Announces uri other later

/-- The texts that a client holds are those it announced last. -/
def Announced (s : Session σ) : Prop :=
  ∀ uri text, s.texts.lookup uri = some text → LastAnnounced uri text s.traffic

variable {allowed : List Sent → Sent → Prop} {s t u : Session σ} {uri text : String}

theorem Step.texts (h : Step allowed s t) : s.texts <+: t.texts := by
  cases h with
  | rest texts _ | ask _ _ _ texts _ | refused _ _ _ _ texts _ =>
      exact texts.symm ▸ List.prefix_rfl
  | announce _ _ _ _ texts _ => exact ⟨_, texts.symm⟩

theorem Steps.texts (h : Steps allowed s t) : s.texts <+: t.texts := by
  induction h with
  | refl => exact List.prefix_rfl
  | tail _ step ih => exact ih.trans step.texts

theorem Steps.lookup (h : Steps allowed s t) (hs : s.texts.lookup uri = some text) :
    t.texts.lookup uri = some text := h.texts.lookup_eq_some hs

theorem announces_openParams {uri' text' language : String}
    (h : Announces uri text ⟨openMethod, openParams uri' language text'⟩) : uri' = uri := by
  obtain ⟨other, h⟩ := h
  simp only [openParams, Sent.mk.injEq, true_and, Json.object.injEq, List.cons.injEq,
    Prod.mk.injEq, Json.text.injEq] at h
  exact h.1.1

theorem LastAnnounced.append {traffic : List Sent} {m : Sent} (h : LastAnnounced uri text traffic)
    (hm : ∀ other, ¬ Announces uri other m) : LastAnnounced uri text (traffic ++ [m]) := by
  obtain ⟨before, first, after, rfl, hf, ha⟩ := h
  refine ⟨before, first, after ++ [m], by simp, hf, List.forall_mem_append.mpr ⟨ha, ?_⟩⟩
  simpa using hm

theorem lastAnnounced_concat (traffic : List Sent) (uri language text : String) :
    LastAnnounced uri text (traffic ++ [⟨openMethod, openParams uri language text⟩]) :=
  ⟨traffic, _, [], rfl, ⟨language, rfl⟩, by simp⟩

theorem Step.announced (h : Step allowed s t) (hs : Announced s) : Announced t := by
  intro uri text hl
  cases h with
  | rest texts traffic =>
      rw [texts] at hl
      rw [traffic]
      exact hs uri text hl
  | ask m other _ texts traffic =>
      rw [texts] at hl
      rw [traffic]
      apply (hs uri text hl).append
      rintro _ ⟨_, rfl⟩
      exact other rfl
  | announce uri' language text' fresh texts traffic =>
      rw [texts, List.lookup_append] at hl
      rw [traffic]
      by_cases hu : uri' = uri
      · subst hu
        obtain rfl : text' = text := by simpa [fresh] using hl
        exact lastAnnounced_concat _ _ _ _
      · have hold : s.texts.lookup uri = some text := by
          have hne : (uri == uri') = false := by simpa using Ne.symm hu
          simpa [List.lookup_cons, hne] using hl
        exact (hs uri text hold).append fun _ h => hu (announces_openParams h)
  | refused uri' language text' fresh texts traffic =>
      rw [texts] at hl
      rw [traffic]
      refine (hs uri text hl).append fun _ h => ?_
      obtain rfl := announces_openParams h
      simp [fresh] at hl

theorem Steps.announced (h : Steps allowed s t) (hs : Announced s) : Announced t := by
  induction h with
  | refl => exact hs
  | tail _ step ih => exact step.announced ih

theorem Reachable.announced (h : Reachable s) : Announced s := by
  obtain ⟨world, h⟩ := h
  apply h.announced
  intro uri text hl
  simp [Session.start] at hl

/-- Some messages, sent after others, were allowed one by one. -/
def Permitted (allowed : List Sent → Sent → Prop) (traffic sent : List Sent) : Prop :=
  ∀ before m after, sent = before ++ m :: after → m.method ≠ openMethod →
    allowed (traffic ++ before) m

theorem permitted_nil (traffic : List Sent) : Permitted allowed traffic [] := by
  intro before m after h
  simp at h

theorem permitted_singleton {traffic : List Sent} {m : Sent}
    (h : m.method ≠ openMethod → allowed traffic m) : Permitted allowed traffic [m] := by
  intro before m' after hs hm
  cases before with
  | nil =>
      obtain ⟨rfl, -⟩ := List.cons.inj hs
      simpa using h hm
  | cons first rest => simp at hs

theorem Permitted.append {traffic xs ys : List Sent} (hx : Permitted allowed traffic xs)
    (hy : Permitted allowed (traffic ++ xs) ys) : Permitted allowed traffic (xs ++ ys) := by
  intro before m after hs hm
  obtain ⟨middle, rfl, rfl⟩ | ⟨middle, rfl, hm'⟩ := List.append_eq_append_iff.mp hs
  · rw [← List.append_assoc]
    exact hy middle m after rfl hm
  · obtain ⟨rfl, rfl⟩ | ⟨rest, rfl, rfl⟩ := List.cons_eq_append_iff.mp hm'
    · simpa using hy [] m after rfl hm
    · exact hx before m rest rfl hm

theorem Step.permitted (h : Step allowed s t) :
    ∃ sent, t.traffic = s.traffic ++ sent ∧ Permitted allowed s.traffic sent := by
  cases h with
  | rest _ traffic => exact ⟨[], by simp [traffic], permitted_nil _⟩
  | ask m _ ok _ traffic => exact ⟨[m], traffic, permitted_singleton fun _ => ok⟩
  | announce _ _ _ _ _ traffic | refused _ _ _ _ _ traffic =>
      exact ⟨_, traffic, permitted_singleton fun h => absurd rfl h⟩

theorem Steps.permitted (h : Steps allowed s t) :
    ∃ sent, t.traffic = s.traffic ++ sent ∧ Permitted allowed s.traffic sent := by
  induction h with
  | refl => exact ⟨[], by simp, permitted_nil _⟩
  | tail _ step ih =>
      obtain ⟨xs, hxs, hx⟩ := ih
      obtain ⟨ys, hys, hy⟩ := step.permitted
      rw [hxs] at hys hy
      exact ⟨xs ++ ys, by rw [hys, List.append_assoc], hx.append hy⟩

end CodeAtlas.Client
