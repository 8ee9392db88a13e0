import CodeAtlas.CallSites
import CodeAtlas.Proofs.CallSites.Words
import CodeAtlas.Proofs.Text.Pattern

namespace CodeAtlas.CallSite

open Text Pattern

/-- What a match takes before the called name: nothing, or a receiver and a dot. -/
inductive Lead : Form → List Char → Prop
  | alone : Lead .alone []
  | onReceiver {receiver before after : List Char} (identifier : Identifier receiver)
      (blank : ∀ c ∈ before, isBlank c = true) (blank' : ∀ c ∈ after, isBlank c = true) :
      Lead .onReceiver (receiver ++ before ++ ['.'] ++ after)

structure Starts (form : Form) (last : Option Char) : Prop where
  noWord : ∀ c ∈ last, isWord c = false
  noDot : form = .alone → '.' ∉ last

/-- What a match takes: something before the name, the name, and the blanks
before the parenthesis. -/
structure Cut (form : Form) (lead name gap : List Char) : Prop where
  lead : Lead form lead
  name : Identifier name
  gap : ∀ c ∈ gap, isBlank c = true

theorem advances_call : call.Advances := by
  have hblanks : blanks.Advances := advances_many_one isBlank
  have hidentifier : identifier.Advances := ⟨trivial, advances_many_one isWord⟩
  exact ⟨⟨trivial, hidentifier, hblanks, trivial, hblanks, hidentifier, hblanks, trivial⟩,
    trivial, hidentifier, hblanks, trivial⟩

theorem takes_identifier {s t : Scan Form} : identifier.Takes s t ↔
    ∃ name rest, s.ahead = name ++ rest ∧ Identifier name ∧ t = s.after name rest := by
  constructor
  · rintro ⟨u, hu, ht⟩
    obtain ⟨c, rest, hs, hc, rfl⟩ := takes_one.mp hu
    obtain ⟨more, last, hrest, hmore, rfl⟩ := takes_many_one.mp ht
    rw [Scan.after_ahead] at hrest
    refine ⟨c :: more, last, by rw [hs, hrest, List.cons_append], ⟨⟨c, rfl, hc⟩, ?_⟩,
      Scan.after_after _ _⟩
    exact List.forall_mem_cons.mpr ⟨isWord_of_isIdentStart hc, hmore⟩
  · rintro ⟨name, rest, hs, hname, rfl⟩
    obtain ⟨c, hc, hstart⟩ := hname.start
    obtain ⟨more, rfl⟩ := List.head?_eq_some_iff.mp hc
    refine ⟨s.after [c] (more ++ rest), takes_one.mpr ⟨c, _, hs, hstart, rfl⟩, ?_⟩
    refine takes_many_one.mpr ⟨more, rest, rfl, fun d hd => ?_, by rw [Scan.after_after]; rfl⟩
    exact hname.word d (List.mem_cons_of_mem _ hd)

/-- The place after a name that is called, and the name as a part. -/
def called (form : Form) (lead name gap rest : List Char) (s : Scan Form) : Scan Form :=
  ((s.after (lead ++ name) (gap ++ '(' :: rest)).name form (s.offset + lead.length)).after
    (gap ++ ['(']) rest

theorem takes_called {form : Form} {lead ahead : List Char} {s t : Scan Form} :
    (Pattern.seq (.named form identifier) (.seq blanks (literal "("))).Takes
        (s.after lead ahead) t ↔
      ∃ name gap rest, ahead = name ++ (gap ++ '(' :: rest) ∧ Identifier name ∧
        (∀ c ∈ gap, isBlank c = true) ∧ t = called form lead name gap rest s := by
  constructor
  · rintro ⟨_, ⟨_, hnamed, rfl⟩, _, hblanks, hopens⟩
    obtain ⟨name, r, hs, hname, rfl⟩ := takes_identifier.mp hnamed
    obtain ⟨gap, r', hr, hgap, rfl⟩ := takes_many_one.mp hblanks
    obtain ⟨rest, hr', rfl⟩ := (takes_literal (c := '(') rfl).mp hopens
    simp only [Scan.after_ahead, Scan.name] at hs hr hr'
    refine ⟨name, gap, rest, by rw [hs, hr, hr'], hname, hgap, ?_⟩
    simp [called, Scan.name, Scan.after, List.getLast?_append, Nat.add_assoc]
  · rintro ⟨name, gap, rest, rfl, hname, hgap, rfl⟩
    refine ⟨_, ⟨_, takes_identifier.mpr ⟨name, _, rfl, hname, rfl⟩, rfl⟩, ?_⟩
    refine ⟨_, takes_many_one.mpr ⟨gap, _, rfl, hgap, rfl⟩, ?_⟩
    refine (takes_literal (c := '(') rfl).mpr ⟨rest, rfl, ?_⟩
    simp [called, Scan.name, Scan.after, List.getLast?_append, Nat.add_assoc]

theorem starts_alone {last : Option Char} :
    Starts .alone last ↔ ∀ c ∈ last, (c == '.' || isWord c) = false := by
  constructor
  · intro h c hc
    have hword := h.noWord c hc
    have hdot : c ≠ '.' := fun he => h.noDot rfl (he ▸ hc)
    simp [hword, hdot]
  · intro h
    refine ⟨fun c hc => (Bool.or_eq_false_iff.mp (h c hc)).2, fun _ hdot => ?_⟩
    exact absurd (h '.' hdot) (by simp)

theorem takes_alone {s t : Scan Form} : alone.Takes s t ↔
    ∃ lead name gap rest, Cut .alone lead name gap ∧ Starts .alone s.last ∧
      s.ahead = lead ++ (name ++ (gap ++ '(' :: rest)) ∧
      t = called .alone lead name gap rest s := by
  constructor
  · rintro ⟨u, hlast, ht⟩
    obtain ⟨hlast, rfl⟩ := takes_notAfter.mp hlast
    rw [← Scan.after_nil (s := u)] at ht
    obtain ⟨name, gap, rest, hs, hname, hgap, rfl⟩ := takes_called.mp ht
    exact ⟨[], name, gap, rest, ⟨.alone, hname, hgap⟩, starts_alone.mpr hlast, hs, rfl⟩
  · rintro ⟨lead, name, gap, rest, ⟨⟨⟩, hname, hgap⟩, hstarts, hs, rfl⟩
    refine ⟨s, takes_notAfter.mpr ⟨starts_alone.mp hstarts, rfl⟩, ?_⟩
    have hcalled := (takes_called (t := called .alone [] name gap rest s)).mpr
      ⟨name, gap, rest, hs, hname, hgap, rfl⟩
    rwa [Scan.after_nil] at hcalled

theorem takes_onReceiver {s t : Scan Form} : onReceiver.Takes s t ↔
    ∃ lead name gap rest, Cut .onReceiver lead name gap ∧ Starts .onReceiver s.last ∧
      s.ahead = lead ++ (name ++ (gap ++ '(' :: rest)) ∧
      t = called .onReceiver lead name gap rest s := by
  constructor
  · rintro ⟨u, ⟨hedge, rfl⟩, _, htakes, _, hbefore, _, hdot, _, hafter, ht⟩
    obtain ⟨receiver, r, hs, hreceiver, rfl⟩ := takes_identifier.mp htakes
    obtain ⟨before, r', hr, hblank, rfl⟩ := takes_many_one.mp hbefore
    obtain ⟨r'', hr', rfl⟩ := (takes_literal (c := '.') rfl).mp hdot
    obtain ⟨after, ahead, hr'', hblank', rfl⟩ := takes_many_one.mp hafter
    simp only [Scan.after_ahead, Scan.after_after] at hr hr' hr'' ht
    obtain ⟨name, gap, rest, rfl, hname, hgap, rfl⟩ := takes_called.mp ht
    obtain ⟨c, _, rfl, hc⟩ := hreceiver.eq_cons
    obtain ⟨hlast, -⟩ := (takes_edge hs hc).mp ⟨hedge, rfl⟩
    refine ⟨_, name, gap, rest, ⟨.onReceiver hreceiver hblank hblank', hname, hgap⟩,
      ⟨hlast, nofun⟩, ?_, rfl⟩
    rw [hs, hr, hr', hr'']
    simp
  · rintro ⟨_, name, gap, rest, ⟨hlead, hname, hgap⟩, hstarts, hs, rfl⟩
    cases hlead with
    | @onReceiver receiver before after hreceiver hbefore hafter =>
        rw [List.append_assoc, List.append_assoc, List.append_assoc] at hs
        obtain ⟨c, tail, rfl, hc⟩ := hreceiver.eq_cons
        refine ⟨s, (takes_edge hs hc).mpr ⟨hstarts.noWord, rfl⟩, ?_⟩
        refine ⟨_, takes_identifier.mpr ⟨_, _, hs, hreceiver, rfl⟩, ?_⟩
        refine ⟨_, takes_many_one.mpr ⟨_, _, rfl, hbefore, rfl⟩, ?_⟩
        refine ⟨_, (takes_literal (c := '.') rfl).mpr ⟨after ++ _, rfl, rfl⟩, ?_⟩
        refine ⟨_, takes_many_one.mpr ⟨_, _, rfl, hafter, rfl⟩, ?_⟩
        simp only [Scan.after_after]
        exact takes_called.mpr ⟨name, gap, rest, rfl, hname, hgap, rfl⟩

theorem takes_call {s t : Scan Form} : call.Takes s t ↔
    ∃ form lead name gap rest, Cut form lead name gap ∧ Starts form s.last ∧
      s.ahead = lead ++ (name ++ (gap ++ '(' :: rest)) ∧
      t = called form lead name gap rest s := by
  constructor
  · rintro (h | h)
    · exact ⟨_, takes_onReceiver.mp h⟩
    · exact ⟨_, takes_alone.mp h⟩
  · rintro ⟨_ | _, h⟩
    · exact .inl (takes_onReceiver.mpr h)
    · exact .inr (takes_alone.mpr h)

section Called

variable {form : Form} {lead name gap rest before : List Char} {s : Scan Form}

@[simp] theorem called_ahead : (called form lead name gap rest s).ahead = rest := rfl

@[simp] theorem called_parts : (called form lead name gap rest s).parts =
    s.parts ++ [⟨form, s.offset + lead.length, s.offset + (lead ++ name).length⟩] := rfl

theorem past_called (h : s.Past before) :
    (called form lead name gap rest s).Past (before ++ (lead ++ name ++ (gap ++ ['(']))) := by
  have hnamed := (h.after (lead ++ name) (gap ++ '(' :: rest)).after (gap ++ ['(']) rest
  rw [List.append_assoc before] at hnamed
  exact ⟨hnamed.offset, hnamed.last⟩

end Called

section Cut

variable {form form' : Form} {lead lead' name name' gap gap' rest rest' : List Char}

theorem Cut.unique (h : Cut form lead name gap) (h' : Cut form' lead' name' gap')
    (he : lead ++ (name ++ (gap ++ '(' :: rest)) = lead' ++ (name' ++ (gap' ++ '(' :: rest'))) :
    lead = lead' ∧ name = name' := by
  have hsplit (receiver before after tail : List Char) :
      receiver ++ before ++ ['.'] ++ after ++ tail =
        receiver ++ (before ++ '.' :: (after ++ tail)) := by simp
  obtain ⟨hlead, hname, hgap⟩ := h
  obtain ⟨hlead', hname', hgap'⟩ := h'
  cases hlead with
  | alone =>
      cases hlead' with
      | alone =>
          obtain ⟨rfl, -⟩ := word_unique hname.word hname'.word hgap hgap' delimits_parenthesis
            delimits_parenthesis he
          exact ⟨rfl, rfl⟩
      | onReceiver hreceiver hbefore _ =>
          rw [hsplit] at he
          have hword := word_unique hname.word hreceiver.word hgap hbefore delimits_parenthesis
            delimits_dot he
          exact absurd hword.2.2.1 (by decide)
  | onReceiver hreceiver hbefore hafter =>
      rw [hsplit] at he
      cases hlead' with
      | alone =>
          have hword := word_unique hreceiver.word hname'.word hbefore hgap' delimits_dot
            delimits_parenthesis he
          exact absurd hword.2.2.1 (by decide)
      | onReceiver hreceiver' hbefore' hafter' =>
          rw [hsplit] at he
          obtain ⟨rfl, rfl, -, hrest⟩ := word_unique hreceiver.word hreceiver'.word hbefore hbefore'
            delimits_dot delimits_dot he
          obtain ⟨rfl, hcall⟩ := run_unique hafter hafter' hname.noBlank hname'.noBlank hrest
          obtain ⟨rfl, -⟩ := word_unique hname.word hname'.word hgap hgap' delimits_parenthesis
            delimits_parenthesis hcall
          exact ⟨rfl, rfl⟩

theorem Cut.start_cases {mid ahead : List Char} (hcut : Cut form lead name gap)
    (hstart : ∃ c ∈ ahead.head?, isWord c = true) (hlast : ∀ c ∈ mid.getLast?, isWord c = false)
    (h : mid ++ ahead = lead ++ (name ++ (gap ++ '(' :: rest))) :
    mid = [] ∨ mid = lead ∨ ∃ more, mid = lead ++ name ++ (gap ++ ['(']) ++ more := by
  have hends : ∀ c ∈ gap ++ ['('], isWord c = false := by
    refine List.forall_mem_append.mpr ⟨fun c hc => isWord_of_isBlank (hcut.gap c hc), ?_⟩
    simpa using delimits_parenthesis.1
  have hname {mid : List Char} (hlast : ∀ c ∈ mid.getLast?, isWord c = false)
      (h : mid ++ ahead = name ++ (gap ++ '(' :: rest)) :
      mid = [] ∨ ∃ more, mid = name ++ (gap ++ ['(']) ++ more := by
    rw [List.append_cons gap] at h
    obtain rfl | ⟨more, rfl, -⟩ := word_start_cases hcut.name.word hends hstart hlast h
    · exact .inl rfl
    · exact .inr ⟨more, rfl⟩
  cases hcut.lead with
  | alone => exact (hname hlast h).imp_right fun hmore => .inr (by simpa using hmore)
  | @onReceiver receiver before after hreceiver hbefore hafter =>
      have hdot : ∀ c ∈ before ++ ['.'] ++ after, isWord c = false := by
        refine List.forall_mem_append.mpr ⟨List.forall_mem_append.mpr ⟨?_, ?_⟩, ?_⟩
        · exact fun c hc => isWord_of_isBlank (hbefore c hc)
        · simpa using delimits_dot.1
        · exact fun c hc => isWord_of_isBlank (hafter c hc)
      have hreceived : mid ++ ahead = receiver ++ ((before ++ ['.'] ++ after) ++
          (name ++ (gap ++ '(' :: rest))) := by simpa using h
      obtain rfl | ⟨more, rfl, hmore⟩ := word_start_cases hreceiver.word hdot hstart hlast hreceived
      · exact .inl rfl
      · obtain rfl | ⟨last, rfl⟩ := hname (noWord_of_append hlast) hmore
        · exact .inr (.inl (by simp))
        · exact .inr (.inr ⟨last, by simp⟩)

end Cut

end CodeAtlas.CallSite
