namespace Rubric

/-- A JSON number: whole where the text is, and a double otherwise. -/
inductive JsonNumber where
  | natural (n : Nat)
  /-- The number `-(n + 1)`. -/
  | negative (n : Nat)
  | double (x : Float)
deriving DecidableEq

inductive Json where
  | null
  | boolean (b : Bool)
  | number (n : JsonNumber)
  | string (s : String)
  | array (elements : List Json)
  | object (members : List (String × Json))
  /-- A value that is well-formed but stands for nothing: a text with half a surrogate pair, a
  number beyond the doubles, a value nested too deep. It may be passed over but not read. -/
  | unusable

instance : Inhabited Json := ⟨.null⟩

namespace Json

mutual

/-- How deep arrays and objects are nested in a value. -/
def depth : Json → Nat
  | array elements => depthAll elements + 1
  | object members => depthMembers members + 1
  | _ => 0

def depthAll : List Json → Nat
  | [] => 0
  | j :: rest => max j.depth (depthAll rest)

def depthMembers : List (String × Json) → Nat
  | [] => 0
  | (_, j) :: rest => max j.depth (depthMembers rest)

end

end Json

end Rubric
