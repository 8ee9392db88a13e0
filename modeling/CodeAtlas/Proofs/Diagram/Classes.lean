import CodeAtlas.Diagram
import CodeAtlas.Proofs.Client.Outcome

namespace CodeAtlas

def Label.IsText (l : Label) : Prop := ∃ name, l = .text name

@[simp]
theorem Label.display_text (name : Name) : (Label.text name).display = name.shown := by
  simp only [display, toJson, Name.toJson, Json.ofPoints]
  split <;> rfl

theorem Label.eq_of_key_text {l : Label} {name : Name} (h : l.key = .text name) :
    l = .text name := by
  cases l with
  | real x =>
      simp only [Label.key] at h
      split at h <;> cases h
  | text s =>
      cases h
      rfl
  | null | bool | int => cases h

theorem Label.IsText.eq_of_key {l m : Label} (hl : l.IsText) (h : m.key = l.key) : m = l := by
  obtain ⟨name, rfl⟩ := hl
  exact Label.eq_of_key_text h

theorem TypeGraph.mem_labels_of_key {g : TypeGraph} {l : Label} (hl : ∀ l ∈ g.labels, l.IsText)
    (hk : l.key ∈ g.keys) : l ∈ g.labels := by
  obtain ⟨m, hm, he⟩ := List.mem_map.mp hk
  rwa [(hl m hm).eq_of_key he.symm]

namespace Diagram

variable {g : TypeGraph}

/-- A line of a text stands between line breaks, or at an end of it. -/
def HasLine (text line : String) : Prop :=
  ∃ before after, text = joinLines (before ++ line :: after)

theorem hasLine_of_mem {lines : List String} {line : String} (h : line ∈ lines) :
    HasLine (joinLines lines) line := by
  obtain ⟨before, after, rfl⟩ := List.append_of_mem h
  exact ⟨before, after, rfl⟩

def shown (focus l : Label) : String := if l.key = focus.key then l.display else sanitize l.display

def declaration (focus l : Label) : String := "class " ++ shown focus l

def arrow (focus : Label) (e : TypeEdge) : String :=
  shown focus e.parent ++ " <|-- " ++ shown focus e.child

theorem declaration_focus (focus : Label) :
    declaration focus focus = "class " ++ focus.display := by
  simp [declaration, shown]

theorem shownLabel_text {l : Label} (focus : Label) (h : l.IsText) :
    shownLabel focus l = .ok (shown focus l) := by
  obtain ⟨name, rfl⟩ := h
  simp only [shownLabel, shown, Label.display_text]
  split <;> rfl

theorem classLine_text {l : Label} (focus : Label) (h : l.IsText) :
    classLine focus l = .ok (declaration focus l) := by
  rw [classLine, shownLabel_text focus h]
  rfl

theorem arrowLine_text {e : TypeEdge} (focus : Label) (hp : e.parent.IsText)
    (hc : e.child.IsText) : arrowLine focus e = .ok (arrow focus e) := by
  rw [arrowLine, shownLabel_text focus hp, shownLabel_text focus hc]
  rfl

theorem ofGraph_texts (hl : ∀ l ∈ g.labels, l.IsText)
    (he : ∀ e ∈ g.edges, e.parent.IsText ∧ e.child.IsText) :
    ofGraph g = .ok (joinLines (g.labels.map (declaration g.focus) ++
      g.edges.map (arrow g.focus))) := by
  have hclasses : (g.labels.map id).mapM (classLine g.focus) =
      .ok (g.labels.map (declaration g.focus)) :=
    Client.mapM_map_ok fun l hm => classLine_text g.focus (hl l hm)
  have harrows : (g.edges.map id).mapM (arrowLine g.focus) =
      .ok (g.edges.map (arrow g.focus)) :=
    Client.mapM_map_ok fun e hm => arrowLine_text g.focus (he e hm).1 (he e hm).2
  rw [List.map_id] at hclasses harrows
  rw [ofGraph, hclasses, harrows]
  rfl

end Diagram

end CodeAtlas
