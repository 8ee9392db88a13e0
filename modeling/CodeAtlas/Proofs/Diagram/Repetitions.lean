import CodeAtlas.Diagram
import CodeAtlas.Proofs.CallTree.Calls

namespace CodeAtlas.Diagram

variable {α β : Type} {kept kept' xs ys xs' ys' : List α}

/-- The second list is the first with further entries, each of which came
before it or was kept from the start. -/
inductive Padded : List α → List α → List α → Prop
  | nil (kept : List α) : Padded kept [] []
  | keep {kept xs ys : List α} (a : α) (h : Padded (a :: kept) xs ys) :
      Padded kept (a :: xs) (a :: ys)
  | again {kept xs ys : List α} {a : α} (ha : a ∈ kept) (h : Padded kept xs ys) :
      Padded kept xs (a :: ys)

namespace Padded

theorem refl (kept xs : List α) : Padded kept xs xs := by
  induction xs generalizing kept with
  | nil => exact .nil kept
  | cons a rest ih => exact .keep a (ih _)

theorem of_subset (h : ys ⊆ kept) : Padded kept [] ys := by
  induction ys with
  | nil => exact .nil kept
  | cons a rest ih =>
      obtain ⟨ha, hrest⟩ := List.cons_subset.mp h
      exact .again ha (ih hrest)

theorem mono (h : Padded kept xs ys) (hk : kept ⊆ kept') : Padded kept' xs ys := by
  induction h generalizing kept' with
  | nil => exact .nil kept'
  | keep a _ ih => exact .keep a (ih (List.cons_subset_cons a hk))
  | again ha _ ih => exact .again (hk ha) (ih hk)

theorem append (h : Padded kept xs ys) (h' : Padded (kept ++ ys) xs' ys') :
    Padded kept (xs ++ xs') (ys ++ ys') := by
  induction h with
  | nil kept => simpa using h'
  | @keep kept xs ys a _ ih =>
      refine .keep a (ih (h'.mono fun x hx => ?_))
      simp only [List.mem_append, List.mem_cons] at hx ⊢
      grind
  | @again kept xs ys a ha _ ih =>
      refine .again ha (ih (h'.mono fun x hx => ?_))
      simp only [List.mem_append, List.mem_cons] at hx ⊢
      grind

theorem map (f : α → β) (h : Padded kept xs ys) :
    Padded (kept.map f) (xs.map f) (ys.map f) := by
  induction h with
  | nil kept => exact .nil _
  | keep a _ ih => exact .keep (f a) ih
  | again ha _ ih => exact .again (List.mem_map_of_mem ha) ih

theorem foldl_eq (Holds : β → α → Prop) {step : β → α → β}
    (hskip : ∀ b a, Holds b a → step b a = b) (hstep : ∀ b a, Holds (step b a) a)
    (hkeep : ∀ b a x, Holds b x → Holds (step b a) x) (h : Padded kept xs ys) {b : β}
    (hb : ∀ a ∈ kept, Holds b a) : xs.foldl step b = ys.foldl step b := by
  induction h generalizing b with
  | nil => rfl
  | keep a _ ih =>
      rw [List.foldl_cons, List.foldl_cons]
      refine ih (List.forall_mem_cons.mpr ⟨hstep b a, fun x hx => hkeep b a x (hb x hx)⟩)
  | @again kept xs ys a ha _ ih =>
      rw [List.foldl_cons, hskip b a (hb a ha)]
      exact ih hb

theorem distinct_eq [BEq α] [LawfulBEq α] (h : Padded [] xs ys) : distinct xs = distinct ys := by
  refine h.foldl_eq (fun held a => held.contains a) ?_ ?_ ?_ (by simp)
  · intro held a ha
    exact if_pos ha
  · intro held a
    split <;> simp_all
  · intro held a x hx
    split <;> simp_all

theorem distinctCalls_eq {xs ys : List (Name × Name)} (h : Padded [] xs ys) :
    distinctCalls xs = distinctCalls ys := by
  refine h.foldl_eq (fun held c => held.any fun k => arrowKey k == arrowKey c) ?_ ?_ ?_ (by simp)
  · intro held c hc
    exact if_pos hc
  · intro held c
    split <;> simp_all
  · intro held c x hx
    split <;> simp_all

end Padded

theorem ofCalls_eq_of_padded {t u : CallTree} (hn : t.name = u.name)
    (h : Padded [] t.calls u.calls) : ofCalls t = ofCalls u := by
  have hcallees : Padded [t.name] (t.calls.map Prod.snd) (u.calls.map Prod.snd) :=
    (h.map Prod.snd).mono (List.nil_subset _)
  have hnames : Padded [] t.names u.names := by
    rw [CallTree.names_eq, CallTree.names_eq, ← hn]
    exact .keep t.name hcallees
  rw [ofCalls, ofCalls, hnames.distinct_eq, h.distinctCalls_eq]

end CodeAtlas.Diagram
