import CodeAtlas.Proofs.CallSites.Matches
import CodeAtlas.Proofs.Listing.Firsts

namespace CodeAtlas.CallSite

open Text Pattern

/-- A name, blanks and an opening parenthesis are at the head of a text. -/
structure Calls (name : List Char) (s : List Char) : Prop where
  start : ∃ c ∈ name.head?, isIdentStart c = true
  word : ∀ c ∈ name, isWord c = true
  opens : ∃ blanks rest, (∀ c ∈ blanks, isBlank c = true) ∧ s = name ++ blanks ++ '(' :: rest

theorem Calls.append {name s : List Char} (h : Calls name s) (more : List Char) :
    Calls name (s ++ more) := by
  obtain ⟨blanks, rest, hb, rfl⟩ := h.opens
  exact ⟨h.start, h.word, blanks, rest ++ more, hb, by simp⟩

theorem Calls.head_ne {name s : List Char} (h : Calls name s) : s.head? ≠ some '\n' := by
  obtain ⟨c, hc, hstart⟩ := h.start
  obtain ⟨blanks, rest, -, rfl⟩ := h.opens
  intro hn
  obtain rfl : c = '\n' := by simpa [Option.mem_def.mp hc] using hn
  exact absurd hstart (by decide)

/-- A match can start between `before` and `ahead`, and it is for the site. -/
def MatchAt (before ahead : List Char) (site : CallSite) : Prop :=
  ∃ form lead name gap rest, Cut form lead name gap ∧ Starts form before.getLast? ∧
    ahead = lead ++ (name ++ (gap ++ '(' :: rest)) ∧
    site = ⟨String.ofList name, (before ++ lead).length⟩

theorem MatchAt.start {before ahead : List Char} {site : CallSite}
    (h : MatchAt before ahead site) : (∃ c ∈ ahead.head?, isWord c = true) ∧
      ∀ c ∈ before.getLast?, isWord c = false := by
  obtain ⟨form, lead, name, gap, rest, hcut, hstarts, rfl, -⟩ := h
  refine ⟨?_, hstarts.noWord⟩
  cases hcut.lead with
  | alone =>
      obtain ⟨c, more, rfl, hc⟩ := hcut.name.eq_cons
      exact ⟨c, rfl, hc⟩
  | onReceiver hreceiver _ _ =>
      obtain ⟨c, more, rfl, hc⟩ := hreceiver.eq_cons
      exact ⟨c, rfl, hc⟩

theorem MatchAt.takes {before : List Char} {s : Scan Form} {site : CallSite}
    (hpast : s.Past before) (h : MatchAt before s.ahead site) :
    ∃ t, call.Takes s t ∧ s.offset < t.offset := by
  obtain ⟨form, lead, name, gap, rest, hcut, hstarts, hs, -⟩ := h
  rw [← hpast.last] at hstarts
  refine ⟨_, takes_call.mpr ⟨form, lead, name, gap, rest, hcut, hstarts, hs, rfl⟩, ?_⟩
  rw [(past_called hpast).offset, hpast.offset]
  simp only [List.length_append, List.length_cons]
  omega

/-- A match that starts at an offset or after it is for the site. -/
def MatchFrom (text : List Char) (n : Nat) (site : CallSite) : Prop :=
  ∃ before ahead, text = before ++ ahead ∧ n ≤ before.length ∧ MatchAt before ahead site

theorem MatchFrom.le_offset {text : List Char} {n : Nat} {site : CallSite}
    (h : MatchFrom text n site) : n ≤ site.offset := by
  obtain ⟨before, ahead, -, hn, _, lead, _, _, _, _, _, _, rfl⟩ := h
  simp only [List.length_append]
  omega

theorem MatchFrom.mono {text : List Char} {m n : Nat} {site : CallSite} (hmn : m ≤ n)
    (h : MatchFrom text n site) : MatchFrom text m site := by
  obtain ⟨before, ahead, htext, hn, hmatch⟩ := h
  exact ⟨before, ahead, htext, Nat.le_trans hmn hn, hmatch⟩

theorem matchFrom_iff {before ahead : List Char} {site : CallSite} :
    MatchFrom (before ++ ahead) before.length site ↔
      ∃ mid rest, ahead = mid ++ rest ∧ MatchAt (before ++ mid) rest site := by
  constructor
  · rintro ⟨before', rest, htext, hle, hmatch⟩
    obtain ⟨mid, rfl⟩ : before <+: before' :=
      List.prefix_of_prefix_length_le (List.prefix_append _ _) ⟨rest, htext.symm⟩ hle
    rw [List.append_assoc, List.append_cancel_left_eq] at htext
    exact ⟨mid, rest, htext, hmatch⟩
  · rintro ⟨mid, rest, rfl, hmatch⟩
    exact ⟨before ++ mid, rest, by simp, by simp, hmatch⟩

theorem matchFrom_cons {before rest : List Char} {c : Char} {site : CallSite}
    (h : ∀ site, ¬MatchAt before (c :: rest) site) :
    MatchFrom (before ++ c :: rest) before.length site ↔
      MatchFrom (before ++ c :: rest) (before ++ [c]).length site := by
  refine ⟨fun hfrom => ?_, fun hfrom => hfrom.mono (by simp)⟩
  obtain ⟨mid, last, hahead, hmatch⟩ := matchFrom_iff.mp hfrom
  cases mid with
  | nil =>
      rw [List.append_nil, ← List.nil_append last, ← hahead] at hmatch
      exact absurd hmatch (h site)
  | cons d mid =>
      obtain ⟨rfl, rfl⟩ := List.cons.inj hahead
      rw [List.append_cons before]
      exact matchFrom_iff.mpr ⟨mid, last, rfl, by simpa using hmatch⟩

theorem matchFrom_cut {form : Form} {before lead name gap rest : List Char} {site : CallSite}
    (hcut : Cut form lead name gap) (hstarts : Starts form before.getLast?) :
    MatchFrom (before ++ (lead ++ (name ++ (gap ++ '(' :: rest)))) before.length site ↔
      site = ⟨String.ofList name, (before ++ lead).length⟩ ∨
      MatchFrom (before ++ (lead ++ (name ++ (gap ++ '(' :: rest))))
        (before ++ (lead ++ name ++ (gap ++ ['(']))).length site := by
  constructor
  · intro h
    obtain ⟨mid, ahead, hahead, hmatch⟩ := matchFrom_iff.mp h
    -- A match starts with a word, so inside this one it starts at the receiver or at the name.
    obtain ⟨hstart, hlast⟩ := hmatch.start
    obtain rfl | rfl | ⟨more, rfl⟩ :=
      hcut.start_cases hstart (noWord_of_append hlast) hahead.symm
    · obtain ⟨form', lead', name', gap', rest', hcut', -, rfl, rfl⟩ := hmatch
      obtain ⟨rfl, rfl⟩ := hcut.unique hcut' hahead
      exact .inl (by simp)
    · have hname : Cut .alone [] name gap := ⟨.alone, hcut.name, hcut.gap⟩
      obtain ⟨form', lead', name', gap', rest', hcut', -, rfl, rfl⟩ := hmatch
      obtain ⟨rfl, rfl⟩ := hname.unique hcut' (List.append_cancel_left hahead)
      exact .inl (by simp)
    · refine .inr ⟨_, ahead, ?_, ?_, hmatch⟩
      · rw [hahead, List.append_assoc before]
      · simp only [List.length_append]
        omega
  · rintro (rfl | h)
    · rw [← List.append_nil before] at hstarts
      exact matchFrom_iff.mpr
        ⟨[], _, rfl, form, lead, name, gap, rest, hcut, hstarts, rfl, by simp⟩
    · exact h.mono (by simp)

theorem ofPart_called {form : Form} {before lead name rest : List Char} :
    ofPart (before ++ (lead ++ (name ++ rest)))
      ⟨form, before.length + lead.length, before.length + (lead ++ name).length⟩ =
      ⟨String.ofList name, (before ++ lead).length⟩ := by
  have hdrop : (before ++ (lead ++ (name ++ rest))).drop (before.length + lead.length) =
      name ++ rest := by
    rw [← List.append_assoc]
    exact List.drop_left' (by simp)
  have htake : (name ++ rest).take
      (before.length + (lead ++ name).length - (before.length + lead.length)) = name :=
    List.take_left' (by rw [List.length_append]; omega)
  simp only [ofPart, hdrop, htake]
  rw [List.length_append]

theorem sites_of_searched {text before : List Char} {s : Scan Form}
    {parts : List (Pattern.Part Form)} (h : Searched call s parts) (hpast : s.Past before)
    (hparts : s.parts = []) (htext : text = before ++ s.ahead) :
    (parts.map (ofPart text)).Pairwise (fun a b => a.offset < b.offset) ∧
      ∀ site, site ∈ parts.map (ofPart text) ↔ MatchFrom text before.length site := by
  -- By induction on the search: what is left to find are the matches from its place on.
  induction h generalizing before with
  | @found s t parts htakes _ _ ih =>
      obtain ⟨form, lead, name, gap, rest, hcut, hstarts, hs, rfl⟩ := takes_call.mp htakes
      have hafter : (called form lead name gap rest s).Past _ := past_called hpast
      obtain ⟨hsorted, hmem⟩ := ih ⟨hafter.offset, hafter.last⟩ rfl (by simp [htext, hs])
      rw [hpast.last] at hstarts
      rw [hs] at htext
      subst htext
      rw [called_parts, hparts, hpast.offset, List.nil_append, List.map_append, List.map_singleton,
        List.singleton_append, ofPart_called]
      constructor
      · refine List.pairwise_cons.mpr ⟨fun site hsite => ?_, hsorted⟩
        have hle := ((hmem site).mp hsite).le_offset
        simp only [List.length_append, List.length_cons] at hle ⊢
        omega
      · intro site
        rw [matchFrom_cut hcut hstarts, List.mem_cons, hmem]
  | @moved s c more parts hhere hnothing _ ih =>
      rw [hhere] at htext
      have hno (site : CallSite) : ¬MatchAt before (c :: more) site := by
        intro hmatch
        rw [← hhere] at hmatch
        obtain ⟨t, ht, hlt⟩ := hmatch.takes hpast
        exact Nat.not_le_of_lt hlt (hnothing t ht)
      obtain ⟨hsorted, hmem⟩ := ih (hpast.after [c] more) hparts (by simp [htext, Scan.step])
      refine ⟨hsorted, fun site => ?_⟩
      rw [hmem, htext, matchFrom_cons hno]
  | @ended s hhere =>
      refine ⟨.nil, fun site => ⟨fun hsite => absurd hsite List.not_mem_nil, fun hfrom => ?_⟩⟩
      rw [htext, hhere] at hfrom
      obtain ⟨mid, rest, hahead, hmatch⟩ := matchFrom_iff.mp hfrom
      obtain ⟨rfl, rfl⟩ := List.append_eq_nil_iff.mp hahead.symm
      obtain ⟨⟨c, hc, -⟩, -⟩ := hmatch.start
      cases hc

theorem sites_matchFrom (text : List Char) :
    (sites text).Pairwise (fun a b => a.offset < b.offset) ∧
      ∀ site, site ∈ sites text ↔ MatchFrom text 0 site := by
  have hpast : (Scan.ofText text : Scan Form).Past [] := ⟨rfl, rfl⟩
  exact sites_of_searched (searched_partsIn advances_call text) hpast rfl rfl

def unskipped (text : List Char) (skip : Nat → Bool) : List CallSite :=
  (sites text).filter fun site => !skip site.offset

theorem mem_unskipped {text : List Char} {skip : Nat → Bool} {site : CallSite} :
    site ∈ unskipped text skip ↔ MatchFrom text 0 site ∧ skip site.offset = false := by
  rw [unskipped, List.mem_filter, (sites_matchFrom text).2, Bool.not_eq_true']

theorem foldl_keep (skip : Nat → Bool) (sites kept : List CallSite) :
    sites.foldl (keep skip) kept =
      (sites.filter fun site => !skip site.offset).foldl (keepFirst name) kept := by
  induction sites generalizing kept with
  | nil => rfl
  | cons site rest ih =>
      rw [List.foldl_cons, ih, List.filter_cons]
      cases hskip : skip site.offset <;> simp [keep, keepFirst, hskip]

theorem extract_eq (text : List Char) (skip : Nat → Bool) :
    extract text skip = (unskipped text skip).foldl (keepFirst name) [] := foldl_keep skip _ _

theorem extract_firsts (text : List Char) (skip : Nat → Bool) :
    Firsts name (unskipped text skip) (extract text skip) := by
  rw [extract_eq]
  exact Firsts.of_foldl name _

theorem calls_of_mem_extract {text : List Char} {skip : Nat → Bool} {site : CallSite}
    (h : site ∈ extract text skip) :
    site.offset ≤ text.length ∧ Calls site.name.toList (text.drop site.offset) := by
  obtain ⟨hfrom, -⟩ := mem_unskipped.mp ((extract_firsts text skip).mem_of_mem h)
  obtain ⟨before, _, rfl, -, form, lead, name, gap, rest, hcut, -, rfl, rfl⟩ := hfrom
  rw [← List.append_assoc]
  refine ⟨by simp, ?_⟩
  rw [String.toList_ofList, List.drop_left]
  exact ⟨hcut.name.start, hcut.name.word, gap, rest, hcut.gap, by simp⟩

theorem skip_of_mem_extract {text : List Char} {skip : Nat → Bool} {site : CallSite}
    (h : site ∈ extract text skip) : skip site.offset = false :=
  (mem_unskipped.mp ((extract_firsts text skip).mem_of_mem h)).2

end CodeAtlas.CallSite
