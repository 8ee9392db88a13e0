import CodeAtlas.Proofs.Settings.Sound
import Mathlib.Data.List.Induction

namespace CodeAtlas.SharedSettings

inductive Event
  | change (env : Environment)
  | get
  | set (given : Option { s : Settings // s.Made })

namespace Event

def environment? : Event → Option Environment
  | .change env => some env
  | _ => none

def sets : Event → Bool
  | .set _ => true
  | _ => false

end Event

structure State where
  env : Environment
  known : SharedSettings

namespace State

def step (s : State) : Event → State
  | .change env => { s with env := env }
  | .get => { s with known := (get s.env s.known).2 }
  | .set given => { s with known := given.map Subtype.val }

def answer (s : State) : Except Failure Settings := (get s.env s.known).1

end State

def after (start : Environment) (past : List Event) : State := past.foldl State.step ⟨start, none⟩

/-- What a request for the settings comes to. -/
def ask (start : Environment) (past : List Event) : Except Failure Settings :=
  (after start past).answer

def envAfter (start : Environment) (past : List Event) : Environment :=
  past.foldl (fun env event => event.environment?.getD env) start

def Unset (past : List Event) : Prop := ∀ event ∈ past, event.sets = false

def Forgotten (past : List Event) : Prop := past = [] ∨ ∃ before, past = before ++ [.set none]

def InVain (start : Environment) (before since : List Event) : Prop :=
  ∀ front back, since = front ++ .get :: back → ∃ e, ask start (before ++ front) = .error e

/-- Known are the settings that were set last, or those that the first request
to be answered since none were set read from the environment of its time. -/
inductive Known (start : Environment) : List Event → Option Settings → Prop
  | set (before since : List Event) (s : { s : Settings // s.Made }) :
      Unset since → Known start (before ++ .set (some s) :: since) (some s.val)
  | read (before front back : List Event) (s : Settings) :
      Forgotten before → Unset front → Unset back → InVain start before front →
      Settings.ofEnvironment (envAfter start (before ++ front)) = .ok s →
      Known start (before ++ front ++ .get :: back) (some s)
  | unread (before since : List Event) :
      Forgotten before → Unset since → InVain start before since →
      Known start (before ++ since) none

variable {start env : Environment} {past before since : List Event} {event : Event}
  {known : Option Settings} {s : Settings}

@[simp]
theorem after_concat : after start (past ++ [event]) = (after start past).step event := by
  simp [after]

@[simp]
theorem envAfter_concat :
    envAfter start (past ++ [event]) = event.environment?.getD (envAfter start past) := by
  simp [envAfter]

theorem env_after (start : Environment) (past : List Event) :
    (after start past).env = envAfter start past := by
  induction past using List.reverseRecOn with
  | nil => rfl
  | append_singleton past event ih =>
      rw [after_concat, envAfter_concat, ← ih]
      cases event <;> rfl

theorem known_get (env : Environment) (known : SharedSettings) :
    (get env known).2 = (get env known).1.toOption := by
  cases known with
  | some s => rfl
  | none =>
      rw [get]
      cases Settings.ofEnvironment env <;> rfl

theorem ask_eq (h : (after start past).known = known) :
    ask start past = known.elim (Settings.ofEnvironment (envAfter start past)) .ok := by
  rw [ask, State.answer, h, env_after]
  cases known with
  | some s => rfl
  | none =>
      rw [get, Option.elim_none]
      cases Settings.ofEnvironment (envAfter start past) <;> rfl

theorem unset_nil : Unset [] := List.forall_mem_nil _

theorem Unset.concat (h : Unset since) (hevent : event.sets = false) :
    Unset (since ++ [event]) := List.forall_mem_append.mpr ⟨h, by simpa using hevent⟩

theorem inVain_nil (start : Environment) (before : List Event) : InVain start before [] := by
  intro front back heq
  simp at heq

theorem InVain.concat (h : InVain start before since)
    (hevent : event = .get → ∃ e, ask start (before ++ since) = .error e) :
    InVain start before (since ++ [event]) := by
  intro front back heq
  -- the request is the event itself, or one of those before it
  obtain rfl | ⟨rest, last, rfl⟩ := List.eq_nil_or_concat back
  · obtain ⟨rfl, hget⟩ := List.append_inj' heq rfl
    exact hevent (List.singleton_inj.mp hget)
  · rw [List.concat_eq_append, ← List.cons_append, ← List.append_assoc] at heq
    exact h front rest (List.append_inj' heq rfl).1

theorem Known.concat (h : Known start past known) (hsets : event.sets = false)
    (hevent : event = .get → known = none → ∃ e, ask start past = .error e) :
    Known start (past ++ [event]) known := by
  cases h with
  | set before since s hset =>
      rw [List.append_assoc, List.cons_append]
      exact .set before _ s (hset.concat hsets)
  | read before front back s hforgotten hfront hback hvain hread =>
      rw [List.append_assoc, List.cons_append]
      exact .read before front _ s hforgotten hfront (hback.concat hsets) hvain hread
  | unread before since hforgotten hset hvain =>
      rw [List.append_assoc]
      exact .unread before _ hforgotten (hset.concat hsets) (hvain.concat fun he => hevent he rfl)

theorem Known.get (h : Known start past (after start past).known) :
    Known start (past ++ [.get]) (ask start past).toOption := by
  cases hk : (after start past).known with
  | some s =>
      rw [hk] at h
      rw [ask_eq hk]
      exact h.concat rfl fun _ => nofun
  | none =>
      have hask : ask start past = Settings.ofEnvironment (envAfter start past) := ask_eq hk
      rw [hk] at h
      cases hread : Settings.ofEnvironment (envAfter start past) with
      | error e =>
          have herror : ask start past = .error e := hask.trans hread
          rw [herror]
          exact h.concat rfl fun _ _ => ⟨e, herror⟩
      | ok s =>
          -- Nothing known leaves one way to have come here: no request was answered so far.
          rw [hask, hread]
          cases h with
          | unread before since hforgotten hset hvain =>
              exact .read before since [] s hforgotten hset unset_nil hvain hread

theorem Known.step (h : Known start past (after start past).known) (event : Event) :
    Known start (past ++ [event]) ((after start past).step event).known := by
  cases event with
  | change env => exact h.concat rfl nofun
  | get =>
      rw [State.step, known_get]
      exact h.get
  | set given =>
      cases given with
      | some s => exact .set past [] s unset_nil
      | none =>
          have hnone : Known start (past ++ [.set none] ++ []) none :=
            .unread _ [] (.inr ⟨past, rfl⟩) unset_nil (inVain_nil _ _)
          rwa [List.append_nil] at hnone

theorem known_after (start : Environment) (past : List Event) :
    Known start past (after start past).known := by
  induction past using List.reverseRecOn with
  | nil => exact .unread [] [] (.inl rfl) unset_nil (inVain_nil _ _)
  | append_singleton past event ih =>
      rw [after_concat]
      exact ih.step event

theorem Known.sound (h : Known start past (some s)) : s.Sound := by
  cases h with
  | set _ _ s _ => exact s.property.sound
  | read _ _ _ _ _ _ _ _ hread => exact Settings.sound_ofEnvironment hread

theorem unknown_of_error {e : Failure} (h : ask start past = .error e) :
    (after start past).known = none := by
  cases hk : (after start past).known with
  | none => rfl
  | some s => cases (ask_eq hk).symm.trans h

theorem after_get_of_error {e : Failure} (h : ask start past = .error e) :
    after start (past ++ [.get]) = after start past := by
  have hk : (after start past).known = none := unknown_of_error h
  have hget : (get (after start past).env (after start past).known).2 = none := by
    rw [known_get]
    exact congrArg Except.toOption h
  rw [after_concat, State.step, hget, ← hk]

theorem ask_reread {e : Failure} (h : ask start past = .error e) (env : Environment) :
    ask start (past ++ [.get, .change env]) = Settings.ofEnvironment env := by
  have hk : (after start (past ++ [.get] ++ [.change env])).known = none := by
    rw [after_concat, after_get_of_error h]
    exact unknown_of_error h
  rw [List.append_cons, ask_eq hk, envAfter_concat]
  rfl

theorem sound_ask (h : ask start past = .ok s) : s.Sound := by
  have hk := known_after start past
  cases hknown : (after start past).known with
  | some t =>
      rw [hknown] at hk
      obtain rfl : t = s := Except.ok.inj ((ask_eq hknown).symm.trans h)
      exact hk.sound
  | none => exact Settings.sound_ofEnvironment ((ask_eq hknown).symm.trans h)

/-- Over every course of changes to the environment, requests and settings set:
a request is answered by what is known, or else from the environment as it is
now; one that fails changes nothing, so that the next reads the environment
again; and what is answered is sound. -/
theorem ask_known (start : Environment) (past : List Event) :
    (∃ known, Known start past known ∧
      ask start past = known.elim (Settings.ofEnvironment (envAfter start past)) .ok) ∧
    (∀ e, ask start past = .error e → after start (past ++ [.get]) = after start past ∧
      ∀ env, ask start (past ++ [.get, .change env]) = Settings.ofEnvironment env) ∧
    ∀ s, ask start past = .ok s → s.Sound :=
  ⟨⟨_, known_after start past, ask_eq rfl⟩,
    fun _ he => ⟨after_get_of_error he, ask_reread he⟩, fun _ hs => sound_ask hs⟩

def depthIs (text : String) : Environment := [(Settings.depthVariable, text)]

def atDepth (depth : Int) : Settings := { Settings.standard with maxDepth := depth }

theorem ask_known_reread :
    (∃ e, ask (depthIs "deep") [] = .error e ∧
      ask (depthIs "deep") [.get, .change (depthIs "3")] =
        Settings.ofEnvironment (depthIs "3")) ∧
    ask (depthIs "deep") [.get, .change (depthIs "3"), .get, .change (depthIs "9")] =
      .ok (atDepth 3) ∧ (atDepth 3).Sound := by
  have hdeep : ∃ e, ask (depthIs "deep") [] = .error e := ⟨_, rfl⟩
  obtain ⟨e, hdeep⟩ := hdeep
  have hthree : ask (depthIs "deep")
      [.get, .change (depthIs "3"), .get, .change (depthIs "9")] = .ok (atDepth 3) := rfl
  obtain ⟨-, hreread, -⟩ := ask_known (depthIs "deep") []
  obtain ⟨-, -, hsound⟩ := ask_known (depthIs "deep")
    [.get, .change (depthIs "3"), .get, .change (depthIs "9")]
  exact ⟨⟨e, hdeep, (hreread e hdeep).2 _⟩, hthree, hsound _ hthree⟩

end CodeAtlas.SharedSettings
