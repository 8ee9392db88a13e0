import CodeAtlas.Name
import CodeAtlas.Proofs.Text.Units

namespace CodeAtlas.Name

open Text.Units

@[simp]
theorem shown_ofString (s : String) : (ofString s).shown = s := by
  rw [shown, ofString, map_character_chars, String.ofList_toList]

theorem ofString_inj {s t : String} : ofString s = ofString t ↔ s = t := by
  refine ⟨fun h => ?_, congrArg ofString⟩
  rw [← shown_ofString s, h, shown_ofString]

end CodeAtlas.Name
