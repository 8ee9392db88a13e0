import CodeAtlas.Json.Display

namespace CodeAtlas

/-- A text by its code points. Unlike a `String` it can hold surrogates without
a partner. -/
structure Name where
  points : List Nat
  deriving DecidableEq, Repr

namespace Name

def ofString (s : String) : Name := ⟨s.toList.map Char.toNat⟩

instance : Coe String Name := ⟨ofString⟩

instance : Append Name := ⟨fun a b => ⟨a.points ++ b.points⟩⟩

def ofJson (j : Json) : Name := ⟨j.points⟩

def toJson (n : Name) : Json := .ofPoints n.points

/-- As a string, where a lone surrogate is replaced. -/
def shown (n : Name) : String := String.ofList (n.points.map Text.Units.character)

def isEncodable (n : Name) : Bool := !n.points.any Text.Units.isSurrogate

end Name

end CodeAtlas
