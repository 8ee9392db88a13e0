import CodeAtlas.Text.Numeral
import CodeAtlas.Text.Units

namespace CodeAtlas

inductive Json
  | null
  | bool (b : Bool)
  | int (n : Int)
  | real (x : Binary64)
  | text (s : String)
  /-- a text with surrogates that have no partner, by code points -/
  | unpaired (points : List Nat)
  | list (items : List Json)
  | object (fields : List (String × Json))
  deriving Repr

namespace Json

instance : Inhabited Json := ⟨.null⟩

/-- Empty, zero and absent values are not truthy. -/
def truthy : Json → Bool
  | .null => false
  | .bool b => b
  | .int n => n != 0
  | .real x => !x.isZero
  | .text s => s != ""
  | .unpaired _ => true
  | .list items => !items.isEmpty
  | .object fields => !fields.isEmpty

def isObject : Json → Bool
  | .object _ => true
  | _ => false

def isNull : Json → Bool
  | .null => true
  | _ => false

def ofPoints (points : List Nat) : Json :=
  if points.any Text.Units.isSurrogate then .unpaired points
  else .text (String.ofList (points.map Text.Units.character))

mutual

def all (test : Json → Bool) : Json → Bool
  | .list items => test (.list items) && allItems test items
  | .object fields => test (.object fields) && allFields test fields
  | j => test j

def allItems (test : Json → Bool) : List Json → Bool
  | [] => true
  | v :: rest => all test v && allItems test rest

def allFields (test : Json → Bool) : List (String × Json) → Bool
  | [] => true
  | (_, v) :: rest => all test v && allFields test rest

end

def isEncodable : Json → Bool := all fun
  | .unpaired _ => false
  | _ => true

/-- Whether every integer within has few enough digits to be written. -/
def isShort : Json → Bool := all fun
  | .int n => !Text.Numeral.isLong n
  | _ => true

def orElse (a b : Json) : Json := if a.truthy then a else b

/-- A key that is already present keeps its place and takes the new value. -/
def setField (key : String) (value : Json) : List (String × Json) → List (String × Json)
  | [] => [(key, value)]
  | (k, v) :: rest => if k = key then (k, value) :: rest else (k, v) :: setField key value rest

def ofFields (fields : List (String × Json)) : List (String × Json) :=
  fields.foldl (fun done f => setField f.1 f.2 done) []

def get? (key : String) : Json → Option Json
  | .object fields => fields.lookup key
  | _ => none

end Json

end CodeAtlas
