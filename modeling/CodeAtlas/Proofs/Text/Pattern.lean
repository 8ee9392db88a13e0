import CodeAtlas.Text.Pattern

namespace CodeAtlas.Text.Pattern

variable {ν α : Type}

namespace Scan

/-- The place after some of the characters ahead. -/
def after (taken rest : List Char) (s : Scan ν) : Scan ν :=
  ⟨s.offset + taken.length, taken.getLast?.or s.last, rest, s.parts⟩

variable {taken rest : List Char} {s : Scan ν}

@[simp] theorem after_offset : (s.after taken rest).offset = s.offset + taken.length := rfl

@[simp] theorem after_last : (s.after taken rest).last = taken.getLast?.or s.last := rfl

@[simp] theorem after_ahead : (s.after taken rest).ahead = rest := rfl

@[simp] theorem after_parts : (s.after taken rest).parts = s.parts := rfl

@[simp] theorem after_after (more last : List Char) :
    (s.after taken rest).after more last = s.after (taken ++ more) last := by
  simp [after, List.getLast?_append, Option.or_assoc, Nat.add_assoc]

theorem after_nil : s.after [] s.ahead = s := by simp [after]

structure Past (before : List Char) (s : Scan ν) : Prop where
  offset : s.offset = before.length
  last : s.last = before.getLast?

theorem Past.after {before : List Char} (h : Past before s) (taken rest : List Char) :
    Past (before ++ taken) (s.after taken rest) :=
  ⟨by simp [h.offset], by simp [h.last, List.getLast?_append]⟩

end Scan

/-- Some number of turns, not too few or too many, when some are made already. -/
inductive Turns (turn : Scan ν → Scan ν → Prop) (least : Nat) (most : Option Nat) :
    Nat → Scan ν → Scan ν → Prop
  | leave {done : Nat} {s : Scan ν} (enough : least ≤ done) : Turns turn least most done s s
  | more {done : Nat} {s t u : Scan ν} (room : most.all (done < ·) = true) (first : turn s t)
      (rest : Turns turn least most (done + 1) t u) : Turns turn least most done s u

def Takes : Pattern ν → Scan ν → Scan ν → Prop
  | .one accepts, s, t => ∃ c rest, s.ahead = c :: rest ∧ accepts c = true ∧ t = s.step c rest
  | .between holds, s, t => holds s.last s.ahead.head? = true ∧ t = s
  | .seq first second, s, t => ∃ u, first.Takes s u ∧ second.Takes u t
  | .alt first second, s, t => first.Takes s t ∨ second.Takes s t
  | .again _ least most body, s, t => Turns body.Takes least most 0 s t
  | .named n body, s, t => ∃ u, body.Takes s u ∧ t = u.name n s.offset

def Advances : Pattern ν → Prop
  | .one _ | .between _ => True
  | .seq first second | .alt first second => first.Advances ∧ second.Advances
  | .again _ _ _ body => body.Advances ∧ ∀ s t, body.Takes s t → t.ahead.length < s.ahead.length
  | .named _ body => body.Advances

/-- A search that goes on with `next` at each place to which `way` goes. -/
structure Searches (search : (Scan ν → Option α) → Scan ν → Option α)
    (way : Scan ν → Scan ν → Prop) : Prop where
  sound : ∀ {next s a}, search next s = some a → ∃ t, way s t ∧ next t = some a
  complete : ∀ {next s t}, search next s = none → way s t → next t = none

section Repeated

variable {search : (Scan ν → Option α) → Scan ν → Option α} {turn : Scan ν → Scan ν → Prop}
variable {isLazy : Bool} {least : Nat} {most : Option Nat} {next : Scan ν → Option α}
variable {bound done : Nat} {s t : Scan ν} {a : α}

theorem repeated_eq_some
    (h : repeated search isLazy least most next (bound + 1) done s = some a) :
    (least ≤ done ∧ next s = some a) ∨ (most.all (done < ·) = true ∧
      search (repeated search isLazy least most next bound (done + 1)) s = some a) := by
  simp only [repeated, Option.orElse_eq_or] at h
  split at h
  · obtain h | ⟨-, h⟩ := Option.or_eq_some_iff.mp h
    · exact .inl (Option.ite_none_right_eq_some.mp h)
    · exact .inr (Option.ite_none_right_eq_some.mp h)
  · obtain h | ⟨-, h⟩ := Option.or_eq_some_iff.mp h
    · exact .inr (Option.ite_none_right_eq_some.mp h)
    · exact .inl (Option.ite_none_right_eq_some.mp h)

theorem repeated_eq_none
    (h : repeated search isLazy least most next (bound + 1) done s = none) :
    (least ≤ done → next s = none) ∧ (most.all (done < ·) = true →
      search (repeated search isLazy least most next bound (done + 1)) s = none) := by
  simp only [repeated, Option.orElse_eq_or] at h
  split at h
  · obtain ⟨hl, hm⟩ := Option.or_eq_none_iff.mp h
    exact ⟨fun he => by rwa [if_pos he] at hl, fun hr => by rwa [if_pos hr] at hm⟩
  · obtain ⟨hm, hl⟩ := Option.or_eq_none_iff.mp h
    exact ⟨fun he => by rwa [if_pos he] at hl, fun hr => by rwa [if_pos hr] at hm⟩

theorem turns_of_repeated (hsearch : Searches search turn)
    (h : repeated search isLazy least most next bound done s = some a) :
    ∃ t, Turns turn least most done s t ∧ next t = some a := by
  induction bound generalizing done s with
  | zero => simp [repeated] at h
  | succ bound ih =>
      obtain ⟨henough, hn⟩ | ⟨hroom, hm⟩ := repeated_eq_some h
      · exact ⟨s, .leave henough, hn⟩
      · obtain ⟨t, hfirst, ht⟩ := hsearch.sound hm
        obtain ⟨u, hrest, hu⟩ := ih ht
        exact ⟨u, .more hroom hfirst hrest, hu⟩

theorem eq_none_of_turns (hsearch : Searches search turn)
    (hturn : ∀ s t, turn s t → t.ahead.length < s.ahead.length)
    (ht : Turns turn least most done s t) (hbound : s.ahead.length < bound)
    (h : repeated search isLazy least most next bound done s = none) : next t = none := by
  induction ht generalizing bound with
  | leave henough =>
      obtain ⟨bound, rfl⟩ := Nat.exists_eq_add_one_of_ne_zero (Nat.ne_zero_of_lt hbound)
      exact (repeated_eq_none h).1 henough
  | more hroom hfirst hrest ih =>
      obtain ⟨bound, rfl⟩ := Nat.exists_eq_add_one_of_ne_zero (Nat.ne_zero_of_lt hbound)
      have hlt := hturn _ _ hfirst
      exact ih (by omega) (hsearch.complete ((repeated_eq_none h).2 hroom) hfirst)

end Repeated

theorem searches_run (p : Pattern ν) (hp : p.Advances) : Searches (α := α) p.run p.Takes := by
  induction p with
  | one accepts =>
      refine ⟨fun {next s a} h => ?_, fun {next s t} h => ?_⟩
      · simp only [run] at h
        split at h
        next c rest hs =>
          obtain ⟨hc, hn⟩ := Option.ite_none_right_eq_some.mp h
          exact ⟨_, ⟨c, rest, hs, hc, rfl⟩, hn⟩
        next => cases h
      · rintro ⟨c, rest, hs, hc, rfl⟩
        simpa [run, hs, hc] using h
  | between holds =>
      refine ⟨fun {next s a} h => ?_, fun {next s t} h => ?_⟩
      · obtain ⟨hs, hn⟩ := Option.ite_none_right_eq_some.mp h
        exact ⟨s, ⟨hs, rfl⟩, hn⟩
      · rintro ⟨hs, rfl⟩
        simpa [run, hs] using h
  | seq first second ihFirst ihSecond =>
      obtain ⟨hfirst, hsecond⟩ := hp
      refine ⟨fun {next s a} h => ?_, fun {next s t} h => ?_⟩
      · obtain ⟨u, hu, h⟩ := (ihFirst hfirst).sound h
        obtain ⟨t, ht, hn⟩ := (ihSecond hsecond).sound h
        exact ⟨t, ⟨u, hu, ht⟩, hn⟩
      · rintro ⟨u, hu, ht⟩
        exact (ihSecond hsecond).complete ((ihFirst hfirst).complete h hu) ht
  | alt first second ihFirst ihSecond =>
      obtain ⟨hfirst, hsecond⟩ := hp
      refine ⟨fun {next s a} h => ?_, fun {next s t} h => ?_⟩
      · rw [run, Option.orElse_eq_or] at h
        obtain h | ⟨-, h⟩ := Option.or_eq_some_iff.mp h
        · obtain ⟨t, ht, hn⟩ := (ihFirst hfirst).sound h
          exact ⟨t, .inl ht, hn⟩
        · obtain ⟨t, ht, hn⟩ := (ihSecond hsecond).sound h
          exact ⟨t, .inr ht, hn⟩
      · rw [run, Option.orElse_eq_or] at h
        obtain ⟨hf, hs⟩ := Option.or_eq_none_iff.mp h
        rintro (ht | ht)
        · exact (ihFirst hfirst).complete hf ht
        · exact (ihSecond hsecond).complete hs ht
  | again isLazy least most body ih =>
      obtain ⟨hbody, hturn⟩ := hp
      exact ⟨fun h => turns_of_repeated (ih hbody) h,
        fun h ht => eq_none_of_turns (ih hbody) hturn ht (Nat.lt_add_one _) h⟩
  | named n body ih =>
      refine ⟨fun {next s a} h => ?_, fun {next s t} h => ?_⟩
      · obtain ⟨u, hu, hn⟩ := (ih hp).sound h
        exact ⟨_, ⟨u, hu, rfl⟩, hn⟩
      · rw [run] at h
        rintro ⟨u, hu, rfl⟩
        have hn := (ih hp).complete h hu
        exact hn

/-- What the search for all matches goes through: matches one after the other,
and between them places where nothing matches. -/
inductive Searched (p : Pattern ν) : Scan ν → List (Part ν) → Prop
  | found {s t : Scan ν} {parts : List (Part ν)} (takes : p.Takes s t) (moves : s.offset < t.offset)
      (rest : Searched p { t with parts := [] } parts) : Searched p s (t.parts ++ parts)
  | moved {s : Scan ν} {c : Char} {more : List Char} {parts : List (Part ν)}
      (here : s.ahead = c :: more) (nothing : ∀ t, p.Takes s t → t.offset ≤ s.offset)
      (rest : Searched p (s.step c more) parts) : Searched p s parts
  | ended {s : Scan ν} (here : s.ahead = []) : Searched p s []

theorem takes_of_match? {p : Pattern ν} (hp : p.Advances) {s t : Scan ν}
    (h : p.match? s = some t) : p.Takes s t ∧ s.offset < t.offset := by
  obtain ⟨u, hu, hn⟩ := (searches_run p hp).sound h
  obtain ⟨hlt, hut⟩ := Option.ite_none_right_eq_some.mp hn
  obtain rfl := Option.some.inj hut
  exact ⟨hu, hlt⟩

theorem le_of_match?_eq_none {p : Pattern ν} (hp : p.Advances) {s t : Scan ν}
    (h : p.match? s = none) (ht : p.Takes s t) : t.offset ≤ s.offset := by
  have hn := (searches_run p hp).complete h ht
  simpa using hn

theorem turns_length {turn : Scan ν → Scan ν → Prop} {least : Nat} {most : Option Nat} {done : Nat}
    {s t : Scan ν}
    (hturn : ∀ s t, turn s t → t.offset + t.ahead.length = s.offset + s.ahead.length)
    (h : Turns turn least most done s t) :
    t.offset + t.ahead.length = s.offset + s.ahead.length := by
  induction h with
  | leave => rfl
  | more _ hfirst _ ih => rw [ih, hturn _ _ hfirst]

theorem takes_length {p : Pattern ν} {s t : Scan ν} (h : p.Takes s t) :
    t.offset + t.ahead.length = s.offset + s.ahead.length := by
  induction p generalizing s t with
  | one accepts =>
      obtain ⟨c, rest, hs, -, rfl⟩ := h
      rw [hs, List.length_cons, Nat.add_comm rest.length, ← Nat.add_assoc]
      rfl
  | between holds =>
      obtain ⟨-, rfl⟩ := h
      rfl
  | seq first second ihFirst ihSecond =>
      obtain ⟨u, hu, ht⟩ := h
      rw [ihSecond ht, ihFirst hu]
  | alt first second ihFirst ihSecond => exact h.elim ihFirst ihSecond
  | again isLazy least most body ih => exact turns_length (fun _ _ => ih) h
  | named n body ih =>
      obtain ⟨u, hu, rfl⟩ := h
      have hlength := ih hu
      exact hlength

theorem searched_partsFrom {p : Pattern ν} (hp : p.Advances) {bound : Nat} {s : Scan ν}
    (hbound : s.ahead.length < bound) : Searched p s (p.partsFrom bound s) := by
  induction bound generalizing s with
  | zero => omega
  | succ bound ih =>
      rw [partsFrom]
      split
      next t ht =>
        obtain ⟨htakes, hmoves⟩ := takes_of_match? hp ht
        have hlength := takes_length htakes
        exact .found htakes hmoves (ih (by simp only; omega))
      next hnone =>
        split
        next c rest hs =>
          rw [hs, List.length_cons] at hbound
          refine .moved hs (fun t => le_of_match?_eq_none hp hnone) (ih ?_)
          simp only [Scan.step]
          omega
        next hs => exact .ended hs

theorem searched_partsIn {p : Pattern ν} (hp : p.Advances) (text : List Char) :
    Searched p (.ofText text) (p.partsIn text) :=
  searched_partsFrom hp (Nat.lt_add_one _)

theorem takes_one {accepts : Char → Bool} {s t : Scan ν} : (one accepts).Takes s t ↔
    ∃ c rest, s.ahead = c :: rest ∧ accepts c = true ∧ t = s.after [c] rest := Iff.rfl

theorem advances_many_one (accepts : Char → Bool) : (many (one accepts) : Pattern ν).Advances := by
  refine ⟨trivial, ?_⟩
  rintro s t ⟨c, rest, hs, -, rfl⟩
  simp [Scan.step, hs]

theorem taken_of_turns_one {accepts : Char → Bool} {done : Nat} {s t : Scan ν}
    (h : Turns (one accepts).Takes 0 none done s t) : ∃ taken rest, s.ahead = taken ++ rest ∧
      (∀ c ∈ taken, accepts c = true) ∧ t = s.after taken rest := by
  induction h with
  | @leave _ s _ => exact ⟨[], s.ahead, rfl, by simp, Scan.after_nil.symm⟩
  | more _ hfirst _ ih =>
      obtain ⟨c, rest, hs, hc, rfl⟩ := takes_one.mp hfirst
      obtain ⟨taken, last, hrest, htaken, rfl⟩ := ih
      rw [Scan.after_ahead] at hrest
      exact ⟨c :: taken, last, by rw [hs, hrest, List.cons_append],
        List.forall_mem_cons.mpr ⟨hc, htaken⟩, Scan.after_after _ _⟩

theorem turns_one_of_taken {accepts : Char → Bool} {taken rest : List Char} {done : Nat}
    {s : Scan ν} (hs : s.ahead = taken ++ rest) (htaken : ∀ c ∈ taken, accepts c = true) :
    Turns (one accepts).Takes 0 none done s (s.after taken rest) := by
  induction taken generalizing done s with
  | nil =>
      rw [List.nil_append] at hs
      rw [← hs, Scan.after_nil]
      exact .leave (Nat.zero_le _)
  | cons c taken ih =>
      obtain ⟨hc, hmore⟩ := List.forall_mem_cons.mp htaken
      have hrest : Turns (one accepts).Takes 0 none (done + 1) (s.after [c] (taken ++ rest)) _ :=
        ih rfl hmore
      rw [Scan.after_after] at hrest
      exact .more rfl (takes_one.mpr ⟨c, _, hs, hc, rfl⟩) hrest

theorem takes_many_one {accepts : Char → Bool} {s t : Scan ν} : (many (one accepts)).Takes s t ↔
    ∃ taken rest, s.ahead = taken ++ rest ∧ (∀ c ∈ taken, accepts c = true) ∧
      t = s.after taken rest := by
  refine ⟨taken_of_turns_one, ?_⟩
  rintro ⟨taken, rest, hs, htaken, rfl⟩
  exact turns_one_of_taken hs htaken

theorem takes_literal {text : String} {c : Char} (htext : text.toList = [c]) {s t : Scan ν} :
    (literal text).Takes s t ↔ ∃ rest, s.ahead = c :: rest ∧ t = s.after [c] rest := by
  have hliteral : (literal text : Pattern ν) = one (· == c) := by rw [literal, htext]; rfl
  rw [hliteral, takes_one]
  constructor
  · rintro ⟨d, rest, hs, hd, rfl⟩
    obtain rfl : d = c := by simpa using hd
    exact ⟨rest, hs, rfl⟩
  · rintro ⟨rest, hs, rfl⟩
    exact ⟨c, rest, hs, by simp, rfl⟩

theorem takes_notAfter {refuses : Char → Bool} {s t : Scan ν} :
    (notAfter refuses).Takes s t ↔ (∀ c ∈ s.last, refuses c = false) ∧ t = s := by
  cases h : s.last <;> simp [notAfter, Takes, h]

theorem takes_edge {s t : Scan ν} {c : Char} {rest : List Char} (hs : s.ahead = c :: rest)
    (hc : isWord c = true) : edge.Takes s t ↔ (∀ d ∈ s.last, isWord d = false) ∧ t = s := by
  cases h : s.last <;> simp [edge, Takes, isEdge, h, hs, hc]

end CodeAtlas.Text.Pattern
