import Rubric.Dictionary
import Rubric.Json.Basic

namespace Rubric.Json

variable {α : Type}

def text? : Json → Option String
  | string s => some s
  | _ => none

def boolean? : Json → Option Bool
  | boolean b => some b
  | _ => none

def natural? : Json → Option Nat
  | number (.natural n) => some n
  | _ => none

def double? : Json → Option Float
  | number (.natural n) => some (Float.ofNat n)
  | number (.negative n) => some (-(Float.ofNat (n + 1)))
  | number (.double x) => some x
  | _ => none

def list? (element : Json → Option α) : Json → Option (List α)
  | array elements => elements.mapM element
  | _ => none

/-- The members of an object; of several with one key the last counts. -/
def dictionary? (element : Json → Option α) : Json → Option (Dictionary α)
  | object members =>
    Dictionary.ofList <$> members.mapM fun m => (element m.2).map fun value => (m.1, value)
  | _ => none

def nullable? (element : Json → Option α) : Json → Option (Option α)
  | null => some none
  | j => some <$> element j

/-- A name out of a fixed choice, alone or as the only key of an object that holds null. -/
def choice? (ofName? : String → Option α) : Json → Option α
  | string s => ofName? s
  | object [(s, null)] => ofName? s
  | _ => none

/-- The fields of a record with the given field names. A field that is there twice spoils an object,
and an element too many spoils an array. -/
def record? (names : List String) : Json → Option (String → Option Json)
  | object members =>
    if names.all fun name => (members.filter fun m => m.1 == name).length ≤ 1 then
      some fun name => members.lookup name
    else none
  | array elements =>
    if elements.length ≤ names.length then some fun name => (names.zip elements).lookup name
    else none
  | _ => none

def required (element : Json → Option α) (field : Option Json) : Option α :=
  field.bind element

def optional (default : α) (element : Json → Option α) : Option Json → Option α
  | none => some default
  | some j => element j

end Rubric.Json
