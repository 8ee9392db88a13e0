import Mathlib.Data.List.Basic

namespace CodeAtlas

variable {α : Type} [DecidableEq α] {known seen later : List α} {a : α}

def unseen (known seen : List α) : Nat := (known.filter fun a => decide (a ∉ seen)).length

variable (known) in
theorem unseen_sublist (h : seen ⊆ later) :
    (known.filter fun a => decide (a ∉ later)).Sublist
      (known.filter fun a => decide (a ∉ seen)) := by
  refine List.monotone_filter_right known fun a ha => ?_
  simp only [decide_eq_true_eq] at ha ⊢
  exact fun hs => ha (h hs)

variable (known seen) in
theorem unseen_le_length : unseen known seen ≤ known.length := List.length_filter_le _ known

variable (known) in
theorem unseen_anti (h : seen ⊆ later) : unseen known later ≤ unseen known seen :=
  (unseen_sublist known h).length_le

theorem unseen_lt (h : seen ⊆ later) (hk : a ∈ known) (ha : a ∉ seen) (hl : a ∈ later) :
    unseen known later < unseen known seen := by
  have hs := unseen_sublist known h
  refine Nat.lt_of_le_of_ne hs.length_le fun he => ?_
  have hm : a ∈ known.filter fun a => decide (a ∉ later) := by
    rw [hs.eq_of_length he]
    simp [hk, ha]
  simp [hl] at hm

end CodeAtlas
