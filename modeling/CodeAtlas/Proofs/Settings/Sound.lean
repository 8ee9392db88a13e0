import CodeAtlas.Proofs.Fallible
import CodeAtlas.Settings.Fields

namespace CodeAtlas

namespace Binary64

variable {x : Binary64}

theorem truncate?_of_isZero (h : x.isZero = true) : x.truncate? = some 0 := by
  obtain ⟨he, hf⟩ : x.exponentField = 0 ∧ x.fractionField = 0 := by simpa [isZero] using h
  have hs : x.significand = 0 := by rw [significand, if_pos he, hf]
  rw [truncate?, if_neg (by omega), hs]
  simp

theorem truncate?_of_isNaN (h : x.isNaN = true) : x.truncate? = none := by
  have he : x.exponentField = 2047 := by simp_all [isNaN]
  simp [truncate?, he]

theorem truncate?_nonneg (h : x.isNegative = false) {n : Int} (hn : x.truncate? = some n) :
    0 ≤ n := by
  simp only [truncate?, h] at hn
  split at hn
  · cases hn
  · obtain rfl := Option.some.inj hn
    exact Int.natCast_nonneg _

theorem ceiling?_nonneg (h : (x.isNonPositive && !x.isZero) = false) {n : Int}
    (hn : x.ceiling? = some n) : 0 ≤ n := by
  rw [ceiling?, Option.map_eq_some_iff] at hn
  obtain ⟨m, hm, rfl⟩ := hn
  have hpos : 0 ≤ m := by
    cases hneg : x.isNegative with
    | false => exact truncate?_nonneg hneg hm
    | true =>
        -- Of the words with a sign only zero and what is no number are let through.
        cases hz : x.isZero with
        | true => simp [truncate?_of_isZero hz] at hm; omega
        | false =>
            have hnan : x.isNaN = true := by simpa [isNonPositive, hneg, hz] using h
            simp [truncate?_of_isNaN hnan] at hm
  split <;> omega

end Binary64

namespace Settings

structure Sound (s : Settings) : Prop where
  command : s.command ≠ []
  method : s.method ∈ Lookup.methods
  maxDepth : 0 ≤ s.maxDepth

variable {s t : Settings}

theorem check_eq_ok : s.check = .ok t ↔ t = s ∧ s.Sound := by
  have hempty : s.command.isEmpty = true ↔ s.command = [] := List.isEmpty_iff
  unfold check
  split
  next h => exact ⟨nofun, fun ⟨_, hs⟩ => absurd (hempty.mp h) hs.command⟩
  next h =>
    split
    next hm => exact ⟨nofun, fun ⟨_, hs⟩ => absurd hs.method hm⟩
    next hm =>
      split
      next hd => exact ⟨nofun, fun ⟨_, hs⟩ => absurd hs.maxDepth (Int.not_le.mpr hd)⟩
      next hd =>
        have hs : s.Sound :=
          ⟨fun he => h (hempty.mpr he), Decidable.not_not.mp hm, Int.not_lt.mp hd⟩
        exact ⟨fun he => ⟨(Except.ok.inj he).symm, hs⟩, fun ⟨he, _⟩ => congrArg _ he.symm⟩

theorem sound_check (h : s.check = .ok t) : t.Sound := by
  obtain ⟨rfl, hs⟩ := check_eq_ok.mp h
  exact hs

theorem sound_ofEnvironment {env : Environment} (h : ofEnvironment env = .ok s) : s.Sound := by
  obtain ⟨command, -, h⟩ := bind_eq_ok.mp h
  obtain ⟨workspace, -, h⟩ := bind_eq_ok.mp h
  obtain ⟨levels, -, h⟩ := bind_eq_ok.mp h
  obtain ⟨depth, -, h⟩ := bind_eq_ok.mp h
  obtain ⟨timeout, -, h⟩ := bind_eq_ok.mp h
  exact sound_check h

theorem commandOf_ne_nil {given : Json} {command : List String}
    (h : commandOf given = .ok command) : command ≠ [] := by
  unfold commandOf at h
  split at h
  next ht =>
    split at h
    next items =>
      obtain rfl := Except.ok.inj h
      simpa [Json.truthy] using ht
    next => simp [← Except.ok.inj h]
  next => cases h

theorem methodOf_known {given : Json} {method : String} (h : methodOf given = .ok method) :
    method ∈ Lookup.methods := by
  unfold methodOf at h
  split at h
  · split at h
    next hm =>
      obtain rfl := Except.ok.inj h
      exact hm
    next => cases h
  · cases h

theorem limitOf_nonneg {given : Json} {limit : Int} (h : limitOf given = .ok limit)
    (hb : isBelowZero given = false) : 0 ≤ limit := by
  cases given with
  | int n =>
      obtain rfl := Except.ok.inj h
      simpa [isBelowZero] using hb
  | bool b =>
      obtain rfl := Except.ok.inj h
      cases b <;> decide
  | real x =>
      obtain rfl := Except.ok.inj h
      cases hc : x.ceiling? with
      | none => exact Int.natCast_nonneg _
      | some n => exact Binary64.ceiling?_nonneg hb hc
  | null | text _ | unpaired _ | list _ | object _ => cases h

theorem depthOf_nonneg {given : Json} {depth : Int} (h : depthOf given = .ok depth) :
    0 ≤ depth := by
  obtain ⟨limit, hlimit, h⟩ := bind_eq_ok.mp h
  cases hb : isBelowZero given with
  | true => rw [hb] at h; cases h
  | false =>
      rw [hb] at h
      obtain rfl : limit = depth := Except.ok.inj h
      exact limitOf_nonneg hlimit hb

theorem sound_ofFields {fields : List (String × Json)} (h : ofFields fields = .ok s) :
    s.Sound := by
  unfold ofFields at h
  split at h
  · cases h
  · obtain ⟨workspace, -, h⟩ := bind_eq_ok.mp h
    obtain ⟨command, hcommand, h⟩ := bind_eq_ok.mp h
    obtain ⟨method, hmethod, h⟩ := bind_eq_ok.mp h
    obtain ⟨depth, hdepth, h⟩ := bind_eq_ok.mp h
    obtain rfl := Except.ok.inj h
    refine ⟨?_, methodOf_known hmethod, depthOf_nonneg hdepth⟩
    cases hc : fields.lookup commandField with
    | none =>
        rw [hc] at hcommand
        simp [← Except.ok.inj hcommand, standard]
    | some given =>
        rw [hc] at hcommand
        exact commandOf_ne_nil hcommand

inductive Made : Settings → Prop
  | fields {fields : List (String × Json)} {s : Settings} : ofFields fields = .ok s → Made s
  | environment {env : Environment} {s : Settings} : ofEnvironment env = .ok s → Made s
  | changed {s t : Settings} : s.check = .ok t → Made t

theorem Made.sound (h : Made s) : s.Sound := by
  cases h with
  | fields h => exact sound_ofFields h
  | environment h => exact sound_ofEnvironment h
  | changed h => exact sound_check h

end Settings

end CodeAtlas
