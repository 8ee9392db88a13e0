import CodeAtlas.Name

namespace CodeAtlas.Scripted

instance : CoeOut Name String := ⟨Name.shown⟩

instance : Coe (List Name) (List String) := ⟨List.map Name.shown⟩

instance : Coe (List String) (List Name) := ⟨List.map Name.ofString⟩

def comesBefore (a b : Name) : Bool := a.points.lex b.points fun m n => m < n

instance : LE Name := ⟨fun a b => comesBefore b a = false⟩

instance (a b : Name) : Decidable (a ≤ b) := inferInstanceAs (Decidable (comesBefore b a = false))

end CodeAtlas.Scripted
