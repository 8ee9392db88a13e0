import CodeAtlas.Proofs.CallSites.Words
import CodeAtlas.Proofs.Diagram.Classes
import CodeAtlas.Proofs.Hierarchy.Rooted
import CodeAtlas.Proofs.Name

namespace CodeAtlas

open Text (isWord)

def Label.IsWord (l : Label) : Prop :=
  ∃ name : String, l = .text name ∧ ∀ c ∈ name.toList, isWord c = true

structure TypeGraph.Textual (g : TypeGraph) : Prop where
  labels : ∀ l ∈ g.labels, l.IsText
  edges : ∀ e ∈ g.edges, e.parent.IsText ∧ e.child.IsText

structure TypeGraph.Worded (g : TypeGraph) : Prop where
  labels : ∀ l ∈ g.labels, l.IsWord
  edges : ∀ e ∈ g.edges, e.parent.IsWord ∧ e.child.IsWord

theorem Label.IsWord.isText {l : Label} (h : l.IsWord) : l.IsText :=
  let ⟨name, hl, _⟩ := h
  ⟨name, hl⟩

theorem TypeGraph.Worded.textual {g : TypeGraph} (h : g.Worded) : g.Textual :=
  ⟨fun l hl => (h.labels l hl).isText,
    fun e he => ⟨(h.edges e he).1.isText, (h.edges e he).2.isText⟩⟩

namespace Diagram

variable {g h : TypeGraph} {focus l : Label} {e : TypeEdge}

def linesOf (text : String) : List String := (text.split '\n').toList.map (·.copy)

def IsLine (line : String) : Prop := line ≠ "" ∧ '\n' ∉ line.toList

theorem linesOf_joinLines {lines : List String} (h : ∀ line ∈ lines, '\n' ∉ line.toList) :
    linesOf (joinLines lines) = if lines = [] then [""] else lines :=
  String.toList_split_intercalate h

theorem joinLines_injective {xs ys : List String} (hx : ∀ line ∈ xs, IsLine line)
    (hy : ∀ line ∈ ys, IsLine line) (he : joinLines xs = joinLines ys) : xs = ys := by
  have hlines := congrArg linesOf he
  rw [linesOf_joinLines fun line hl => (hx line hl).2,
    linesOf_joinLines fun line hl => (hy line hl).2] at hlines
  -- Only an empty line could be taken for no line at all.
  split at hlines <;> split at hlines
  next hxs hys => rw [hxs, hys]
  next => exact absurd rfl (hy "" (by simp [← hlines])).1
  next => exact absurd rfl (hx "" (by simp [hlines])).1
  next => exact hlines

def linesFor (g : TypeGraph) : List String :=
  g.labels.map (declaration g.focus) ++ g.edges.map (arrow g.focus)

theorem ofGraph_textual (ht : g.Textual) : ofGraph g = .ok (joinLines (linesFor g)) :=
  ofGraph_texts ht.labels ht.edges

theorem newline_sanitize (name : String) : '\n' ∉ (sanitize name).toList := by
  rw [sanitize, String.toList_map, List.mem_map]
  rintro ⟨c, -, hc⟩
  split at hc
  next hw =>
    subst hc
    revert hw
    decide
  next => revert hc; decide

theorem newline_shown (hf : '\n' ∉ focus.display.toList) (hl : l.IsText) :
    '\n' ∉ (shown focus l).toList := by
  unfold shown
  split
  next hk => rwa [← hl.eq_of_key hk.symm]
  next => exact newline_sanitize _

theorem newline_linesFor (hl : ∀ l ∈ g.labels, '\n' ∉ (shown g.focus l).toList)
    (he : ∀ e ∈ g.edges, '\n' ∉ (shown g.focus e.parent).toList ∧
      '\n' ∉ (shown g.focus e.child).toList) :
    ∀ line ∈ linesFor g, '\n' ∉ line.toList := by
  refine List.forall_mem_append.mpr ⟨?_, ?_⟩ <;> rw [List.forall_mem_map]
  · intro l hm
    simpa [declaration] using hl l hm
  · intro e hm
    simp [arrow, he e hm]

theorem linesOf_textual (ht : g.Textual) (hf : '\n' ∉ g.focus.display.toList)
    (hne : g.labels ≠ [] ∨ g.edges ≠ []) : linesOf (joinLines (linesFor g)) = linesFor g := by
  have hlines : linesFor g ≠ [] := by simpa [linesFor] using not_and_or.mpr hne
  rw [linesOf_joinLines (newline_linesFor ?_ ?_), if_neg hlines]
  · exact fun l hl => newline_shown hf (ht.labels l hl)
  · exact fun e he => ⟨newline_shown hf (ht.edges e he).1, newline_shown hf (ht.edges e he).2⟩

theorem sanitize_word {name : String} (h : ∀ c ∈ name.toList, isWord c = true) :
    sanitize name = name := by
  rw [← String.toList_inj, sanitize, String.toList_map]
  have hmap : name.toList.map (fun c => if isWord c then c else '-') = name.toList.map id :=
    List.map_congr_left fun c hc => if_pos (h c hc)
  rw [hmap, List.map_id]

theorem shown_word {name : String} (focus : Label) (h : ∀ c ∈ name.toList, isWord c = true) :
    shown focus (.text name) = name := by
  rw [shown, Label.display_text, Name.shown_ofString, sanitize_word h, ite_self]

theorem newline_word (focus : Label) (h : l.IsWord) : '\n' ∉ (shown focus l).toList := by
  obtain ⟨name, rfl, hname⟩ := h
  rw [shown_word focus hname]
  intro hmem
  exact absurd (hname _ hmem) (by decide)

theorem word_split {a b x y : String} (ha : ∀ c ∈ a.toList, isWord c = true)
    (hb : ∀ c ∈ b.toList, isWord c = true) (hx : ∀ c ∈ x.toList.head?, isWord c = false)
    (hy : ∀ c ∈ y.toList.head?, isWord c = false) (h : a ++ x = b ++ y) : a = b ∧ x = y := by
  simp only [← String.toList_inj, String.toList_append] at h ⊢
  exact CallSite.run_unique ha hb hx hy h

theorem declaration_injective {focus' l' : Label} (hl : l.IsWord) (hl' : l'.IsWord)
    (h : declaration focus l = declaration focus' l') : l = l' := by
  obtain ⟨name, rfl, hname⟩ := hl
  obtain ⟨name', rfl, hname'⟩ := hl'
  simp only [declaration, shown_word _ hname, shown_word _ hname', ← String.toList_inj,
    String.toList_append, List.append_cancel_left_eq] at h
  rw [String.toList_inj.mp h]

theorem arrow_word {parent child : String} (focus : Label)
    (hp : ∀ c ∈ parent.toList, isWord c = true) (hc : ∀ c ∈ child.toList, isWord c = true) :
    arrow focus ⟨.text parent, .text child⟩ = parent ++ (" <|-- " ++ child) := by
  simp only [arrow, shown_word _ hp, shown_word _ hc, String.append_assoc]

theorem noWord_head (child : String) :
    ∀ c ∈ (" <|-- " ++ child).toList.head?, isWord c = false := by
  intro c hc
  obtain rfl : ' ' = c := by simpa using hc
  decide

theorem arrow_injective {focus' : Label} {e' : TypeEdge} (hp : e.parent.IsWord)
    (hc : e.child.IsWord) (hp' : e'.parent.IsWord) (hc' : e'.child.IsWord)
    (h : arrow focus e = arrow focus' e') : e = e' := by
  obtain ⟨_, _⟩ := e
  obtain ⟨_, _⟩ := e'
  obtain ⟨parent, rfl, hparent⟩ := hp
  obtain ⟨child, rfl, hchild⟩ := hc
  obtain ⟨parent', rfl, hparent'⟩ := hp'
  obtain ⟨child', rfl, hchild'⟩ := hc'
  rw [arrow_word focus hparent hchild, arrow_word focus' hparent' hchild'] at h
  obtain ⟨rfl, hrest⟩ := word_split hparent hparent' (noWord_head _) (noWord_head _) h
  simp only [← String.toList_inj, String.toList_append, List.append_cancel_left_eq] at hrest
  rw [String.toList_inj.mp hrest]

theorem isWord_class : ∀ c ∈ "class".toList, isWord c = true :=
  List.all_eq_true.mp (by decide)

theorem declaration_ne_arrow {focus' : Label} (hl : l.IsWord) (hp : e.parent.IsWord)
    (hc : e.child.IsWord) : declaration focus l ≠ arrow focus' e := by
  obtain ⟨_, _⟩ := e
  obtain ⟨name, rfl, hname⟩ := hl
  obtain ⟨parent, rfl, hparent⟩ := hp
  obtain ⟨child, rfl, hchild⟩ := hc
  rw [arrow_word focus' hparent hchild, declaration, shown_word focus hname]
  intro h
  have hcut : "class" ++ (" " ++ name) = parent ++ (" <|-- " ++ child) := by
    rw [← h, ← String.append_assoc]
    rfl
  obtain ⟨-, hrest⟩ := word_split isWord_class hparent (by simp; decide) (noWord_head _) hcut
  have hmem : '<' ∈ name.toList := by
    have hlists := congrArg String.toList hrest
    simp at hlists
    simp [hlists]
  exact absurd (hname _ hmem) (by decide)

theorem isLine_linesFor (hw : g.Worded) : ∀ line ∈ linesFor g, IsLine line := by
  intro line hm
  refine ⟨?_, newline_linesFor (fun l hl => newline_word _ (hw.labels l hl))
    (fun e he => ⟨newline_word _ (hw.edges e he).1, newline_word _ (hw.edges e he).2⟩) line hm⟩
  obtain hm | hm := List.mem_append.mp hm <;> obtain ⟨_, -, rfl⟩ := List.mem_map.mp hm
  · simp [declaration]
  · simp [arrow]

theorem append_unique {α : Type} {front front' back back' : List α}
    (hfront : ∀ a ∈ front, a ∉ back') (hfront' : ∀ a ∈ front', a ∉ back)
    (h : front ++ back = front' ++ back') : front = front' ∧ back = back' := by
  obtain ⟨mid, rfl, rfl⟩ | ⟨mid, rfl, rfl⟩ := List.append_eq_append_iff.mp h
  · cases mid with
    | nil => exact ⟨by simp, rfl⟩
    | cons a mid => exact absurd (by simp) (hfront' a (by simp))
  · cases mid with
    | nil => exact ⟨by simp, rfl⟩
    | cons a mid => exact absurd (by simp) (hfront a (by simp))

theorem map_unique {α β : Type} {f f' : α → β} {p : α → Prop}
    (hf : ∀ a b, p a → p b → f a = f' b → a = b) {as bs : List α} (ha : ∀ a ∈ as, p a)
    (hb : ∀ b ∈ bs, p b) (h : as.map f = bs.map f') : as = bs := by
  induction as generalizing bs with
  | nil => exact (List.map_eq_nil_iff.mp h.symm).symm
  | cons a as ih =>
      obtain ⟨b, bs, rfl, hhead, htail⟩ := List.map_eq_cons_iff.mp h.symm
      obtain ⟨hb, hbs⟩ := List.forall_mem_cons.mp hb
      obtain ⟨ha, has⟩ := List.forall_mem_cons.mp ha
      rw [hf a b ha hb hhead.symm, ih has hbs htail.symm]

theorem declaration_not_mem_arrows (hw : g.Worded) (hw' : h.Worded) :
    ∀ line ∈ g.labels.map (declaration g.focus), line ∉ h.edges.map (arrow h.focus) := by
  intro line hl he
  obtain ⟨l, hm, rfl⟩ := List.mem_map.mp hl
  obtain ⟨e, he, hline⟩ := List.mem_map.mp he
  obtain ⟨hparent, hchild⟩ := hw'.edges e he
  exact declaration_ne_arrow (hw.labels l hm) hparent hchild hline.symm

theorem linesFor_injective (hw : g.Worded) (hw' : h.Worded) (he : linesFor g = linesFor h) :
    g.labels = h.labels ∧ g.edges = h.edges := by
  obtain ⟨hlabels, hedges⟩ := append_unique (declaration_not_mem_arrows hw hw')
    (declaration_not_mem_arrows hw' hw) he
  refine ⟨map_unique (fun _ _ => declaration_injective) hw.labels hw'.labels hlabels, ?_⟩
  refine map_unique (fun _ _ hends hends' => ?_) hw.edges hw'.edges hedges
  exact arrow_injective hends.1 hends.2 hends'.1 hends'.2

theorem declared_of_mem (hm : l ∈ g.labels) :
    "class " ++ shown g.focus l ∈ g.labels.map (declaration g.focus) := List.mem_map_of_mem hm

/-- Equal diagrams of words are of graphs with equal labels and equal edges.
Whatever the texts, unless the focus breaks a line, the lines of a diagram are
the declarations, one for each label, and then the arrows, one for each edge;
and what an arrow of a built graph has on either side is declared. -/
theorem ofGraph_lossless :
    (∀ g h : TypeGraph, g.Worded → h.Worded → ofGraph g = ofGraph h →
      g.labels = h.labels ∧ g.edges = h.edges) ∧
    (∀ g : TypeGraph, g.Textual → '\n' ∉ g.focus.display.toList →
      g.labels ≠ [] ∨ g.edges ≠ [] →
      ∃ text, ofGraph g = .ok text ∧
        linesOf text = g.labels.map (declaration g.focus) ++ g.edges.map (arrow g.focus)) ∧
    ∀ {σ : Type} (w : World σ) (identity : Identity) (bound : Nat) (node : TypeNode) (mode : Mode)
      (focus : Option Label) (s u : Session σ) (g : TypeGraph),
      Client.outcome (Hierarchy.build w identity bound node mode focus) s = (.ok g, u) →
      (∀ l ∈ g.labels, l.IsText) →
      g.labels ≠ [] ∧ g.Textual ∧
        ∀ e ∈ g.edges, ∀ name ∈ [shown g.focus e.parent, shown g.focus e.child],
          "class " ++ name ∈ g.labels.map (declaration g.focus) := by
  refine ⟨?_, ?_, ?_⟩
  · intro g h hw hw' he
    rw [ofGraph_textual hw.textual, ofGraph_textual hw'.textual] at he
    exact linesFor_injective hw hw'
      (joinLines_injective (isLine_linesFor hw) (isLine_linesFor hw') (Except.ok.inj he))
  · intro g ht hf hne
    exact ⟨_, ofGraph_textual ht, linesOf_textual ht hf hne⟩
  · intro σ w identity bound node mode focus s u g h hl
    obtain ⟨label, queries, t, grown, hlabel, -, hgrown, rfl, -⟩ := Hierarchy.build_ok h
    have hc := hgrown.isClosure hlabel
    refine ⟨fun hnil => ?_, ⟨hl, hc.edges_texts hl⟩, fun e he => ?_⟩
    · have hroot := hc.root
      simp [List.map_eq_nil_iff.mp hnil] at hroot
    · obtain ⟨hparent, hchild⟩ := hc.ends_mem_labels hl e he
      simpa using And.intro (declared_of_mem hparent) (declared_of_mem hchild)

/-- A type that is named like the word of a declaration, above another. -/
def keyword (focus : Label) : TypeGraph :=
  ⟨focus, focus, [(.text "class", TypeNode.named "class"), (.text "B", TypeNode.named "B")],
    [⟨.text "class", .text "B"⟩]⟩

theorem worded_keyword (focus : Label) : (keyword focus).Worded := by
  have hclass : (Label.text "class").IsWord := ⟨_, rfl, isWord_class⟩
  have hb : (Label.text "B").IsWord := ⟨_, rfl, List.all_eq_true.mp (by decide)⟩
  exact ⟨by simp [keyword, TypeGraph.labels, hclass, hb], by simp [keyword, hclass, hb]⟩

def punctuated : TypeGraph :=
  ⟨.text "A <|-- B", .text "A <|-- B",
    [(.text "A <|-- B", TypeNode.named "A <|-- B"), (.text "C\nD", TypeNode.named "C\nD")],
    [⟨.text "C\nD", .text "A <|-- B"⟩]⟩

theorem textual_punctuated : punctuated.Textual := by
  constructor <;> simp [punctuated, TypeGraph.labels, Label.IsText]

theorem ofGraph_lossless_keyword :
    (ofGraph (keyword (.text "class")) = ofGraph (keyword (.text "B")) ∧
      (keyword (.text "class")).labels = (keyword (.text "B")).labels ∧
      (keyword (.text "class")).edges = (keyword (.text "B")).edges) ∧
    (∃ text, ofGraph punctuated = .ok text ∧
      linesOf text = ["class A <|-- B", "class C-D", "C-D <|-- A <|-- B"]) ∧
    ∃ g u, Client.outcome (Hierarchy.build (Client.answering Hierarchy.pair) Identity.byName 3
        (TypeNode.named "A") .both none) (.start ()) = (.ok g, u) ∧
      g.labels ≠ [] ∧ g.Textual ∧ g.edges ≠ [] ∧
      ∀ e ∈ g.edges, ∀ name ∈ [shown g.focus e.parent, shown g.focus e.child],
        "class " ++ name ∈ g.labels.map (declaration g.focus) := by
  refine ⟨?_, ?_, ?_⟩
  · have he : ofGraph (keyword (.text "class")) = ofGraph (keyword (.text "B")) := by
      rw [ofGraph_textual (worded_keyword _).textual, ofGraph_textual (worded_keyword _).textual]
      exact congrArg Except.ok (by decide +kernel)
    exact ⟨he, ofGraph_lossless.1 _ _ (worded_keyword _) (worded_keyword _) he⟩
  · obtain ⟨text, htext, hlines⟩ :=
      ofGraph_lossless.2.1 punctuated textual_punctuated (by decide) (.inr (by decide))
    refine ⟨text, htext, hlines.trans ?_⟩
    decide +kernel
  · obtain ⟨g, u, h, hlabels, hedges⟩ : ∃ g u,
        Client.outcome (Hierarchy.build (Client.answering Hierarchy.pair) Identity.byName 3
          (TypeNode.named "A") .both none) (.start ()) = (.ok g, u) ∧
        g.labels = [.text "A", .text "B"] ∧ g.edges.isEmpty = false := ⟨_, _, rfl, rfl, rfl⟩
    obtain ⟨hne, ht, hdeclared⟩ := ofGraph_lossless.2.2 (Client.answering Hierarchy.pair)
      Identity.byName 3 (TypeNode.named "A") .both none (.start ()) u g h
      (by simp [hlabels, Label.IsText])
    exact ⟨g, u, h, hne, ht, List.isEmpty_eq_false_iff.mp hedges, hdeclared⟩

end Diagram

end CodeAtlas
