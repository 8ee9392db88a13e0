import Mathlib.Data.List.Induction
import Mathlib.Data.List.Nodup

namespace CodeAtlas

/-- The entries of a list, each once, in the order in which they are first met. -/
structure FirstMet {α : Type} [BEq α] (all met : List α) : Prop where
  nodup : met.Nodup
  mem_iff : ∀ a, a ∈ met ↔ a ∈ all
  ordered : met.Pairwise fun a b => all.idxOf a < all.idxOf b

namespace FirstMet

variable {α : Type} [BEq α] [LawfulBEq α] {all met : List α} {a : α}

theorem ordered_append (h : FirstMet all met) (more : List α) :
    met.Pairwise fun a b => (all ++ more).idxOf a < (all ++ more).idxOf b := by
  refine h.ordered.imp_of_mem fun {a b} ha hb hlt => ?_
  rwa [List.idxOf_append_of_mem ((h.mem_iff a).mp ha),
    List.idxOf_append_of_mem ((h.mem_iff b).mp hb)]

theorem concat_known (h : FirstMet all met) (ha : a ∈ all) : FirstMet (all ++ [a]) met where
  nodup := h.nodup
  mem_iff b := by
    rw [h.mem_iff, List.mem_append, List.mem_singleton]
    exact ⟨.inl, fun hb => hb.elim id fun he => he ▸ ha⟩
  ordered := h.ordered_append [a]

theorem concat_new (h : FirstMet all met) (ha : a ∉ all) :
    FirstMet (all ++ [a]) (met ++ [a]) where
  nodup := by
    have hnew : a ∉ met := fun hm => ha ((h.mem_iff a).mp hm)
    simpa using h.nodup.concat hnew
  mem_iff b := by rw [List.mem_append, List.mem_append, h.mem_iff]
  ordered := by
    refine List.pairwise_append.mpr ⟨h.ordered_append [a], List.pairwise_singleton _ _, ?_⟩
    intro b hb c hc
    obtain rfl := List.mem_singleton.mp hc
    have hball : b ∈ all := (h.mem_iff b).mp hb
    rw [List.idxOf_append_of_mem hball, List.idxOf_append_of_notMem ha]
    exact Nat.lt_of_lt_of_le (List.idxOf_lt_length_of_mem hball) (Nat.le_add_right _ _)

end FirstMet

/-- Of the entries of one key the first is kept, and the keys stand in the
order in which they are first met. -/
structure Firsts {α κ : Type} [BEq κ] (key : α → κ) (all kept : List α) : Prop where
  met : FirstMet (all.map key) (kept.map key)
  first : ∀ a ∈ kept, all.find? (fun b => key b == key a) = some a

def keepFirst {α κ : Type} [BEq κ] (key : α → κ) (kept : List α) (a : α) : List α :=
  if kept.any fun k => key k == key a then kept else kept ++ [a]

theorem keepFirst_sublist {α κ : Type} [BEq κ] (key : α → κ) {kept past : List α}
    (h : kept.Sublist past) (rest : List α) :
    (rest.foldl (keepFirst key) kept).Sublist (past ++ rest) := by
  induction rest generalizing kept past with
  | nil => simpa using h
  | cons a rest ih =>
      have hstep : (keepFirst key kept a).Sublist (past ++ [a]) := by
        rw [keepFirst]
        split
        · exact h.trans (List.sublist_append_left _ _)
        · exact h.append (List.Sublist.refl _)
      simpa using ih hstep

namespace Firsts

variable {α κ : Type} [BEq κ] {key : α → κ} {all kept : List α}

theorem mem_of_mem (h : Firsts key all kept) {a : α} (ha : a ∈ kept) : a ∈ all :=
  List.mem_of_find?_eq_some (h.first a ha)

theorem eq_of_key_eq (h : Firsts key all kept) {a b : α} (ha : a ∈ kept) (hb : b ∈ kept)
    (he : key a = key b) : a = b := by
  have hfind := h.first a ha
  rw [he, h.first b hb] at hfind
  exact (Option.some.inj hfind).symm

theorem mem_iff_find? (h : Firsts key all kept) {a : α} :
    a ∈ kept ↔ all.find? (fun b => key b == key a) = some a := by
  refine ⟨h.first a, fun ha => ?_⟩
  have hkey : key a ∈ all.map key := List.mem_map_of_mem (List.mem_of_find?_eq_some ha)
  obtain ⟨b, hb, he⟩ := List.mem_map.mp ((h.met.mem_iff _).mpr hkey)
  have hfirst := h.first b hb
  rw [he, ha] at hfirst
  obtain rfl := Option.some.inj hfirst
  exact hb

variable [LawfulBEq κ]

theorem step (h : Firsts key all kept) (a : α) :
    Firsts key (all ++ [a]) (keepFirst key kept a) := by
  have hfirst : ∀ b ∈ kept, (all ++ [a]).find? (fun c => key c == key b) = some b := by
    intro b hb
    rw [List.find?_append, h.first b hb]
    rfl
  have hany : (kept.any fun k => key k == key a) = true ↔ key a ∈ all.map key := by
    rw [← h.met.mem_iff]
    simp
  rw [keepFirst]
  split
  next hk =>
    refine ⟨?_, hfirst⟩
    rw [List.map_append]
    exact h.met.concat_known (hany.mp hk)
  next hk =>
    have hnew : key a ∉ all.map key := fun ha => hk (hany.mpr ha)
    have hnone : all.find? (fun b => key b == key a) = none := by
      rw [List.find?_eq_none]
      intro b hb he
      exact hnew (List.mem_map.mpr ⟨b, hb, by simpa using he⟩)
    refine ⟨?_, List.forall_mem_append.mpr ⟨hfirst, ?_⟩⟩
    · rw [List.map_append, List.map_append]
      exact h.met.concat_new hnew
    · rw [List.forall_mem_singleton, List.find?_append, hnone]
      simp

theorem of_foldl (key : α → κ) (all : List α) : Firsts key all (all.foldl (keepFirst key) []) := by
  have go (rest past kept : List α) (h : Firsts key past kept) :
      Firsts key (past ++ rest) (rest.foldl (keepFirst key) kept) := by
    induction rest generalizing past kept with
    | nil => simpa using h
    | cons a rest ih => simpa using ih _ _ (h.step a)
  exact go all [] [] ⟨⟨.nil, by simp, .nil⟩, by simp⟩

theorem mem_iff_of_sorted (h : Firsts key all kept) {place : α → Nat}
    (hsorted : all.Pairwise fun a b => place a < place b) {a : α} :
    a ∈ kept ↔ a ∈ all ∧ ∀ b ∈ all, key b = key a → place a ≤ place b := by
  rw [h.mem_iff_find?, List.find?_eq_some_iff_append]
  constructor
  · rintro ⟨-, front, back, rfl, hfront⟩
    refine ⟨by simp, fun b hb he => ?_⟩
    obtain hb | hb := List.mem_append.mp hb
    · simpa [he] using hfront b hb
    · obtain rfl | hb := List.mem_cons.mp hb
      · exact Nat.le_refl _
      · have hback := (List.pairwise_cons.mp (List.pairwise_append.mp hsorted).2.1).1
        exact Nat.le_of_lt (hback b hb)
  · rintro ⟨ha, hleast⟩
    obtain ⟨front, back, rfl⟩ := List.append_of_mem ha
    refine ⟨by simp, front, back, rfl, fun b hb => ?_⟩
    have hlt := (List.pairwise_append.mp hsorted).2.2 b hb a List.mem_cons_self
    have hne : key b ≠ key a := fun he =>
      Nat.not_le_of_lt hlt (hleast b (List.mem_append_left _ hb) he)
    simpa using hne

variable [BEq α] [LawfulBEq α]

theorem idxOf_map {a : α} (hk : ∀ b ∈ all, key b = key a → b = a) :
    (all.map key).idxOf (key a) = all.idxOf a := by
  induction all with
  | nil => rfl
  | cons b rest ih =>
      obtain ⟨hb, hrest⟩ := List.forall_mem_cons.mp hk
      rw [List.map_cons]
      by_cases he : b = a
      · rw [List.idxOf_cons_eq _ he, List.idxOf_cons_eq _ (congrArg key he)]
      · have hne : key b ≠ key a := fun h => he (hb h)
        rw [List.idxOf_cons_ne _ he, List.idxOf_cons_ne _ hne, ih hrest]

theorem firstMet_iff (h : Firsts key all kept) :
    FirstMet all kept ↔ ∀ a ∈ all, ∀ b ∈ all, key a = key b → a = b := by
  refine ⟨fun hmet a ha b hb he => ?_, fun hall => ⟨?_, fun a => ?_, ?_⟩⟩
  · exact h.eq_of_key_eq ((hmet.mem_iff a).mpr ha) ((hmet.mem_iff b).mpr hb) he
  · exact h.met.nodup.of_map key
  · refine ⟨fun ha => h.mem_of_mem ha, fun ha => ?_⟩
    obtain ⟨b, hb, he⟩ := List.mem_map.mp ((h.met.mem_iff (key a)).mpr (List.mem_map_of_mem ha))
    obtain rfl : b = a := hall b (h.mem_of_mem hb) a ha he
    exact hb
  · refine (List.pairwise_map.mp h.met.ordered).imp_of_mem fun {a b} ha hb hlt => ?_
    rwa [idxOf_map fun c hc => hall c hc a (h.mem_of_mem ha),
      idxOf_map fun c hc => hall c hc b (h.mem_of_mem hb)] at hlt

end Firsts

variable {α κ : Type} [BEq κ] [LawfulBEq κ]

def isFirst (key : α → κ) (all : List α) : List Bool :=
  all.mapIdx fun i a => !((all.take i).any fun b => key b == key a)

omit [LawfulBEq κ] in
theorem length_isFirst (key : α → κ) (all : List α) :
    (isFirst key all).length = all.length := List.length_mapIdx

omit [LawfulBEq κ] in
theorem isFirst_concat (key : α → κ) (all : List α) (a : α) :
    isFirst key (all ++ [a]) = isFirst key all ++ [!(all.any fun b => key b == key a)] := by
  rw [isFirst, List.mapIdx_concat, List.take_left]
  congr 1
  refine List.mapIdx_eq_mapIdx_iff.mpr fun i hi => ?_
  rw [List.take_append_of_le_length (Nat.le_of_lt hi)]

theorem Firsts.any_key {key : α → κ} {all kept : List α} (h : Firsts key all kept) (a : α) :
    (kept.any fun b => key b == key a) = all.any fun b => key b == key a := by
  have hmem := h.met.mem_iff (key a)
  rw [Bool.eq_iff_iff]
  simpa using hmem

theorem foldl_keepFirst (key : α → κ) (all : List α) :
    all.foldl (keepFirst key) [] =
      ((all.zip (isFirst key all)).filter Prod.snd).map Prod.fst := by
  induction all using List.reverseRecOn with
  | nil => rfl
  | append_singleton past a ih =>
      have hany := (Firsts.of_foldl key past).any_key a
      have hlength : past.length = (isFirst key past).length := (length_isFirst key past).symm
      rw [List.foldl_concat, keepFirst, hany, isFirst_concat, List.zip_append hlength, ih]
      cases past.any fun b => key b == key a <;> simp

end CodeAtlas
