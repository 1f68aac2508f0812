namespace Rubric

inductive Toml where
  | boolean (b : Bool)
  | integer (n : Int)
  | float (x : Float)
  | string (s : String)
  /-- A date, a time, or both, as it is written. -/
  | moment (text : String)
  | array (elements : List Toml)
  | table (entries : List (String × Toml))

instance : Inhabited Toml := ⟨.table []⟩

namespace Toml

variable {α : Type}

def boolean? : Toml → Option Bool
  | boolean b => some b
  | _ => none

def natural? : Toml → Option Nat
  | integer (.ofNat n) => some n
  | _ => none

/-- The fields of a record with the given field names: a table, or an array of the fields in their
order. A moment is a record that has none of them. -/
def record? (names : List String) : Toml → Option (String → Option Toml)
  | table entries => some fun name => entries.lookup name
  | array elements => some fun name => (names.zip elements).lookup name
  | moment _ => some fun _ => none
  | _ => none

def optional (default : α) (read : Toml → Option α) : Option Toml → Option α
  | none => some default
  | some t => read t

end Toml

end Rubric
