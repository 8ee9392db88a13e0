import CodeAtlas.Proofs.CallSites.Places

namespace CodeAtlas.CallSite

open Text Pattern

/-- A maximal run of word characters that starts like a name. -/
structure WordIn (before word after : List Char) : Prop extends Identifier word where
  left : ∀ c ∈ before.getLast?, isWord c = false
  right : ∀ c ∈ after.head?, isWord c = false

/-- The text before a place ends with a name, blanks and a dot. -/
def HasReceiver (before after : List Char) : Prop :=
  ∃ outer receiver gap, before = outer ++ (receiver ++ (gap ++ ['.'])) ∧
    (∀ c ∈ gap, isBlank c = true) ∧ WordIn outer receiver (gap ++ '.' :: after)

/-- A maximal word that starts like a name, blanks and an opening parenthesis,
and right after a dot only if the dot has a receiver. -/
def CallIn (text : List Char) (site : CallSite) : Prop :=
  ∃ before after gap rest, text = before ++ (site.name.toList ++ after) ∧
    site.offset = before.length ∧ WordIn before site.name.toList after ∧
    after = gap ++ '(' :: rest ∧ (∀ c ∈ gap, isBlank c = true) ∧
    (before.getLast? = some '.' → HasReceiver before (site.name.toList ++ after))

theorem callIn_of_matchFrom {text : List Char} {site : CallSite} (h : MatchFrom text 0 site) :
    CallIn text site := by
  obtain ⟨before, _, rfl, -, form, lead, name, gap, rest, hcut, hstarts, rfl, rfl⟩ := h
  obtain ⟨hlead, hname, hgap⟩ := hcut
  have hright : ∀ c ∈ (gap ++ '(' :: rest).head?, isWord c = false :=
    delimits_parenthesis.noWord hgap
  have hleft : (∀ c ∈ (before ++ lead).getLast?, isWord c = false) ∧
      ((before ++ lead).getLast? = some '.' →
        HasReceiver (before ++ lead) (name ++ (gap ++ '(' :: rest))) := by
    cases hlead with
    | alone =>
        rw [List.append_nil]
        exact ⟨hstarts.noWord, fun hdot => absurd hdot (hstarts.noDot rfl)⟩
    | @onReceiver receiver blanks blanks' hreceiver hblanks hblanks' =>
        obtain rfl | ⟨front, c, rfl⟩ := blanks'.eq_nil_or_concat
        · refine ⟨by simpa using delimits_dot.1, fun _ => ?_⟩
          exact ⟨before, receiver, blanks, by simp, hblanks, hreceiver, hstarts.noWord,
            delimits_dot.noWord hblanks⟩
        · have hc : isBlank c = true := hblanks' c (by simp)
          rw [List.concat_eq_append, ← List.append_assoc, ← List.append_assoc,
            List.getLast?_concat]
          refine ⟨by simpa using isWord_of_isBlank hc, fun hdot => ?_⟩
          obtain rfl := Option.some.inj hdot
          cases hc
  rw [CallIn, String.toList_ofList]
  exact ⟨before ++ lead, _, gap, rest, by simp, rfl, ⟨hname, hleft.1, hright⟩, rfl, hgap, hleft.2⟩

theorem matchFrom_of_callIn {text : List Char} {site : CallSite} (h : CallIn text site) :
    MatchFrom text 0 site := by
  obtain ⟨before, _, gap, rest, rfl, hoffset, hword, rfl, hgap, hdot⟩ := h
  have hsite {lead outer : List Char} (hbefore : before = outer ++ lead) :
      site = ⟨String.ofList site.name.toList, (outer ++ lead).length⟩ := by
    rw [String.ofList_toList, ← hbefore, ← hoffset]
  by_cases hlast : before.getLast? = some '.'
  · obtain ⟨outer, receiver, blanks, hbefore, hblanks, hreceiver⟩ := hdot hlast
    have hlead : Lead .onReceiver (receiver ++ blanks ++ ['.'] ++ []) :=
      .onReceiver hreceiver.toIdentifier hblanks (by simp)
    refine ⟨outer, _, ?_, Nat.zero_le _, .onReceiver, _, _, gap, rest,
      ⟨hlead, hword.toIdentifier, hgap⟩, ⟨hreceiver.left, nofun⟩, rfl, hsite ?_⟩
    · rw [hbefore]
      simp
    · rw [hbefore]
      simp
  · exact ⟨before, _, rfl, Nat.zero_le _, .alone, [], _, gap, rest,
      ⟨.alone, hword.toIdentifier, hgap⟩, ⟨hword.left, fun _ => hlast⟩, rfl, hsite (by simp)⟩

/-- Of the calls of a text that are not skipped, the first of each name is
extracted, in the order in which they stand. -/
theorem extract_exact (text : List Char) (skip : Nat → Bool) :
    (extract text skip).Pairwise (fun a b => a.offset < b.offset) ∧
    ((extract text skip).map name).Nodup ∧
    ∀ site, site ∈ extract text skip ↔ CallIn text site ∧ skip site.offset = false ∧
      ∀ other, CallIn text other → skip other.offset = false → other.name = site.name →
        site.offset ≤ other.offset := by
  have hcall (site : CallSite) : MatchFrom text 0 site ↔ CallIn text site :=
    ⟨callIn_of_matchFrom, matchFrom_of_callIn⟩
  have hfirsts := extract_firsts text skip
  have hsorted : (unskipped text skip).Pairwise fun a b => a.offset < b.offset :=
    (sites_matchFrom text).1.filter _
  refine ⟨?_, hfirsts.met.nodup, fun site => ?_⟩
  · rw [extract_eq]
    exact hsorted.sublist (by simpa using keepFirst_sublist name (.refl []) (unskipped text skip))
  · rw [hfirsts.mem_iff_of_sorted hsorted]
    simp only [mem_unskipped, hcall, and_assoc, and_imp]

example : (extract "x . f (g(x)).h() é.k()".toList fun _ => false).map name = ["f", "g"] := by
  decide +kernel

end CodeAtlas.CallSite
