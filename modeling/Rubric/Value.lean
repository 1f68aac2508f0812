import Rubric.Decimal.Numeral
import Rubric.Decimal.Significant
import Rubric.Text.Case
import Rubric.Text.Search

namespace Rubric

inductive BaseType where
  | boolean | integer | float | string | identifier | duration | point | pair | directedPair | file
  | uri
deriving DecidableEq, Repr, Inhabited

namespace BaseType

def all : List BaseType :=
  [boolean, integer, float, string, identifier, duration, point, pair, directedPair, file, uri]

def name : BaseType → String
  | boolean => "boolean"
  | integer => "integer"
  | float => "float"
  | string => "string"
  | identifier => "identifier"
  | duration => "duration"
  | point => "point"
  | pair => "pair"
  | directedPair => "directedPair"
  | file => "file"
  | uri => "uri"

def ofName? (s : String) : Option BaseType :=
  all.find? fun b => b.name == s

/-- The base types whose values take part in numeric comparisons. -/
def isNumeric : BaseType → Bool
  | integer | float => true
  | _ => false

/-- A base type as authors spell it: blanks around it, case and dashes do not matter. A spelling
that names none is handed back in its normal form. -/
def ofSpelling (s : String) : Except String BaseType :=
  match Text.erase (Text.lower (Text.trim s)) "-" with
  | "boolean" | "bool" => .ok boolean
  | "integer" | "int" => .ok integer
  | "float" => .ok float
  | "string" => .ok string
  | "identifier" => .ok identifier
  | "duration" => .ok duration
  | "point" => .ok point
  | "pair" => .ok pair
  | "directedpair" => .ok directedPair
  | "file" => .ok file
  | "uri" => .ok uri
  | other => .error other

end BaseType

/-- The shape of a variable: one value, a bag of values, or a sequence of values. -/
inductive Cardinality where
  | single | multiple | ordered
deriving DecidableEq, Repr, Inhabited

namespace Cardinality

def name : Cardinality → String
  | single => "single"
  | multiple => "multiple"
  | ordered => "ordered"

def ofName? : String → Option Cardinality
  | "single" => some single
  | "multiple" => some multiple
  | "ordered" => some ordered
  | _ => none

theorem ofName?_name (c : Cardinality) : ofName? c.name = some c := by
  cases c <;> rfl

/-- A cardinality as authors spell it: blanks around it and case do not matter. A spelling that
names none is handed back in its normal form. -/
def ofSpelling (s : String) : Except String Cardinality :=
  match Text.lower (Text.trim s) with
  | "single" => .ok single
  | "multiple" => .ok multiple
  | "ordered" => .ok ordered
  | other => .error other

end Cardinality

/-- Why the text of a value cannot be read as asked. -/
inductive ValueError where
  | notNumeric (text : String)
  | notBoolean (text : String)
  | notScalar (identifier : String)
deriving DecidableEq, Repr

def ValueError.message : ValueError → String
  | notNumeric text => s!"value '{text}' could not be parsed as a number"
  | notBoolean text => s!"value '{text}' could not be parsed as a boolean"
  | notScalar identifier => s!"value '{identifier}' has no single value"

/-- Reads a number: a numeral with blanks around it that denotes a finite double. -/
def readNumber (text : String) : Except ValueError Float :=
  match Decimal.Numeral.ofChars? (Text.trimChars text.toList) with
  | some n => if n.toFloat.isFinite then .ok n.toFloat else .error (.notNumeric text)
  | none => .error (.notNumeric text)

/-- Reads a truth value: `true` or `false` in any case with blanks around it. -/
def readBoolean (text : String) : Except ValueError Bool :=
  match Text.lowerAscii (Text.trim text) with
  | "true" => .ok true
  | "false" => .ok false
  | _ => .error (.notBoolean text)

inductive Typed where
  | boolean (b : Bool)
  | number (x : Float)
  | text (s : String)
deriving DecidableEq

def readTyped (baseType : BaseType) (text : String) : Except ValueError Typed :=
  match baseType with
  | .integer | .float | .duration => .number <$> readNumber text
  | .boolean => .boolean <$> readBoolean text
  | _ => .ok (.text text)

/-- A value on its way through a rule. The scalar belongs to a single value and the members to a
container; the identifier names the variable that the value came from. -/
structure Value where
  baseType : BaseType
  cardinality : Cardinality := .single
  scalar : Option String := none
  members : Option (List String) := none
  identifier : Option String := none
deriving DecidableEq, Repr

namespace Value

def single (baseType : BaseType) (text : String) : Value :=
  { baseType, scalar := some text }

def container (baseType : BaseType) (cardinality : Cardinality) (members : List String) : Value :=
  { baseType, cardinality, members := some members }

def number (x : Float) : Value :=
  single .float (Decimal.canonical x)

def string (s : String) : Value :=
  single .string s

def boolean (b : Bool) : Value :=
  single .boolean (if b then "true" else "false")

def named (v : Value) (identifier : String) : Value :=
  { v with identifier := some identifier }

/-- A value is null when it has neither a scalar with any text nor any member. -/
def isNull (v : Value) : Bool :=
  v.scalar.all String.isEmpty && v.members.all List.isEmpty

def scalarOrError (v : Value) : Except ValueError String :=
  match v.scalar with
  | some text => .ok text
  | none => .error (.notScalar (v.identifier.getD ""))

def asNumber (v : Value) : Except ValueError Float := do
  readNumber (← v.scalarOrError)

def typed (v : Value) : Except ValueError Typed := do
  readTyped v.baseType (← v.scalarOrError)

/-- The texts that a value holds: its members if it has a list of them, else its scalar. -/
def texts (v : Value) : List String :=
  match v.members with
  | some members => members
  | none => v.scalar.toList

end Value

end Rubric
