import CodeAtlas.Proofs.CallTrace.Runs

namespace CodeAtlas.CallTrace

open Client

variable {σ τ : Type} {w : World σ} {v : World τ} {levels : Nat} {visited seen seen' : List Name}
  {s t : Session σ} {s' t' : Session τ} {found found' : List (CallTarget × CallTree)}
  {expansions expansions' : List Expansion}

theorem Traced.first_call {owner : CallTarget} {body : List Char} {sites : List CallSite}
    (h : Traced w levels (.sites owner body sites) visited s found expansions seen t) :
    found = [] ∧ seen = visited ∨
      ∃ callee rest first later inner outer mid u u',
        found = first ++ later ∧ expansions = inner ++ outer ∧
          Traced w levels (.enter callee) visited u first inner mid u' ∧
          Traced w levels (.sites owner body rest) mid u' later outer seen t := by
  generalize htask : Task.sites owner body sites = task at h
  induction h generalizing sites with
  | cut | known | expand => cases htask
  | done => exact .inl ⟨rfl, rfl⟩
  | drop _ _ ih =>
      cases htask
      exact ih rfl
  | call _ hc hl =>
      cases htask
      exact .inr ⟨_, _, _, _, _, _, _, _, _, rfl, rfl, hc, hl⟩

def Task.isEntry : Task → Bool
  | .enter _ => true
  | .sites .. => false

/-- By induction on the first account. Where it goes into a function, the
second one does too, past the sites that led nowhere. -/
theorem Traced.determined {task task' : Task}
    (h : Traced w levels task visited s found expansions seen t)
    (h' : Traced v levels task' visited s' found' expansions' seen' t')
    (hkind : task.isEntry = task'.isEntry)
    (hfound : found.map Prod.fst = found'.map Prod.fst)
    (hsame : ∀ e ∈ expansions, ∀ e' ∈ expansions', e.target = e'.target → e.callees = e'.callees) :
    found = found' ∧ seen = seen' := by
  induction h generalizing task' s' found' expansions' seen' t' with
  | cut target visited s =>
      cases h' with
      | cut target' =>
          obtain rfl : target = target' := by simpa using hfound
          exact ⟨rfl, rfl⟩
      | done | drop | call => cases hkind
  | @known levels target visited s hv =>
      cases h' with
      | @known _ target' =>
          obtain rfl : target = target' := by simpa using hfound
          exact ⟨rfl, rfl⟩
      | @expand _ target' _ _ _ _ _ _ _ _ hv' =>
          obtain rfl : target = target' := by simpa using hfound
          exact absurd hv hv'
      | done | drop | call => cases hkind
  | @expand levels target visited seen s t u body found expansions hv _ _ ih =>
      cases h' with
      | @known _ target' _ _ hv' =>
          obtain rfl : target = target' := by simpa using hfound
          exact absurd hv' hv
      | @expand _ target' _ _ _ _ _ _ found' expansions' _ _ hs' =>
          obtain rfl : target = target' := by simpa using hfound
          have hcallees : found.map Prod.fst = found'.map Prod.fst :=
            hsame _ List.mem_cons_self _ List.mem_cons_self rfl
          obtain ⟨rfl, rfl⟩ := ih hs' rfl hcallees fun e he e' he' =>
            hsame e (List.mem_cons_of_mem _ he) e' (List.mem_cons_of_mem _ he')
          exact ⟨rfl, rfl⟩
      | done | drop | call => cases hkind
  | done levels owner body visited s =>
      cases task' with
      | enter => cases hkind
      | sites =>
          obtain ⟨rfl, rfl⟩ | ⟨callee, _, first, _, _, _, _, _, _, rfl, -, hc, -⟩ := h'.first_call
          · exact ⟨rfl, rfl⟩
          · obtain ⟨_, rfl⟩ := hc.enter_found
            simp at hfound
  | drop _ _ ih => exact ih h' hkind hfound hsame
  | @call levels owner callee body site rest _ _ _ _ _ _ _ _ found _ _ _ hc _ ihc ihl =>
      cases task' with
      | enter => cases hkind
      | sites =>
          obtain ⟨_, rfl⟩ := hc.enter_found
          obtain ⟨rfl, -⟩ | ⟨callee', _, _, later', _, _, _, _, _, rfl, rfl, hc', hl'⟩ :=
            h'.first_call
          · simp at hfound
          · obtain ⟨_, rfl⟩ := hc'.enter_found
            obtain ⟨rfl, hlater⟩ :
                callee = callee' ∧ found.map Prod.fst = later'.map Prod.fst := by
              simpa using hfound
            obtain ⟨hfirst, rfl⟩ := ihc hc' rfl rfl fun e he e' he' =>
              hsame e (List.mem_append_left _ he) e' (List.mem_append_left _ he')
            obtain ⟨hrest, rfl⟩ := ihl hl' rfl hlater fun e he e' he' =>
              hsame e (List.mem_append_right _ he) e' (List.mem_append_right _ he')
            exact ⟨by rw [hfirst, hrest], rfl⟩

end CodeAtlas.CallTrace
