import Rubric.Scope
import Rubric.Vocabulary

namespace Rubric

namespace Scope

/-- The value of a literal node. The text is trimmed unless it is a string. -/
def literal (s : Scope) (node : Node) : Logged Value := do
  let baseType ←
    match node.attribute? "baseType" with
    | none => pure .string
    | some spelling =>
      match BaseType.ofSpelling spelling with
      | .ok baseType => pure baseType
      | .error normal => s.fallback (.baseTypeUnknown normal node.name) .string
  let text := node.textValue
  let value := Value.single baseType (if baseType = .string then text else Text.trim text)
  return (node.filledAttribute? "identifier").elim value value.named

/-- What one value adds to the members of a container: a scalar that is not empty, then its
members. -/
def membersFrom (v : Value) : List String :=
  (v.scalar.toList.filter fun text => !text.isEmpty) ++ v.members.getD []

/-- The container of several values, which must share a base type. -/
def containerOf? (s : Scope) (tag : String) (cardinality : Cardinality) (values : List Value) :
    Logged (Option Value) :=
  let baseType := (values.head?.map Value.baseType).getD .string
  match values.find? fun v => v.baseType != baseType with
  | some other => s.fallback (.baseTypesMixed tag baseType other.baseType) none
  | none => pure (some (.container baseType cardinality (values.flatMap membersFrom)))

/-- The name under which a node asks for a custom operator. -/
def operatorName (node : Node) : String :=
  ((node.filledAttribute? "class").or (node.filledAttribute? "definition")).getD ""

/-- The outcome of a custom operator; without the operator, its first operand. -/
def applyCustom (s : Scope) (node : Node) (values : List Value) : Logged Value :=
  let name := operatorName node
  match s.registry.find? name with
  | some operator => operator.apply values
  | none => s.fallback (.operatorUnregistered name) (values.head?.getD (.string ""))

/-- Texts as numbers; one that is no number counts as zero. -/
def numbersOf (s : Scope) (tag : String) : List String → Logged (List Float)
  | [] => pure []
  | text :: rest => do
    let x ←
      match readNumber text with
      | .ok x => pure x
      | .error cause => s.fallback (.operandCountedAsZero tag cause) 0.0
    let xs ← s.numbersOf tag rest
    return x :: xs

def calculateOn (s : Scope) (tag : String) (kind : Calculation) (xs : List Float) : Logged Float :=
  match kind with
  | .sum => pure (xs.foldl (· + ·) 0.0)
  | .product =>
    if xs.isEmpty then s.fallback (.operandsMissing tag) 0.0 else pure (xs.foldl (· * ·) 1.0)
  | .subtract =>
    match xs with
    | [a, b] => pure (a - b)
    | _ => s.fallback (.notTwoOperands tag xs.length) 0.0
  | .divide =>
    match xs with
    | [a, b] => if b == 0.0 then s.fallback (.divisionByZero tag) 0.0 else pure (a / b)
    | _ => s.fallback (.notTwoOperands tag xs.length) 0.0

/-- A calculation on values; the members of containers count one by one. -/
def calculateFrom (s : Scope) (tag : String) (kind : Calculation) (values : List Value) :
    Logged Float := do
  let xs ← s.numbersOf tag (values.flatMap Value.texts)
  s.calculateOn tag kind xs

def pair? (s : Scope) (tag : String) (values : List Value) : Logged (Option (Value × Value)) :=
  match values with
  | [left, right] => pure (some (left, right))
  | _ => s.fallback (.notTwoOperands tag values.length) none

/-- Whether letters count as equal only in the same case, as a node says or else by default. -/
def caseSensitive (node : Node) (default : Bool) : Bool :=
  match (node.attribute? "caseSensitive").map readBoolean with
  | some (.ok b) => b
  | _ => default

/-- How two numbers compare; neither less, equal nor greater is possible. -/
def compareNumbers (a b : Float) : Option Ordering :=
  if a < b then some .lt else if a == b then some .eq else if a > b then some .gt else none

def ordering? (s : Scope) (tag : String) (left right : Value) : Logged (Option Ordering) :=
  if !left.baseType.isNumeric || !right.baseType.isNumeric then
    s.fallback (.notNumericTypes tag left.baseType right.baseType) none
  else
    match left.asNumber, right.asNumber with
    | .ok a, .ok b => pure (compareNumbers a b)
    | .error cause, _ => s.fallback (.operandUnreadable tag cause) none
    | .ok _, .error cause => s.fallback (.operandUnreadable tag cause) none

/-- The form of a text in which equal values of a base type are equal texts. -/
def canonicalText? (baseType : BaseType) (text : String) : Option String :=
  match readTyped baseType text with
  | .ok (.number x) => some (Decimal.canonical x)
  | .ok (.boolean b) => some (if b then "true" else "false")
  | .ok (.text t) => some t
  | .error _ => none

/-- The texts of a value in their canonical forms, if each has one. -/
def canonicalTexts? (v : Value) : Option (List String) :=
  v.texts.mapM (canonicalText? v.baseType)

def sameTexts (ordered : Bool) (xs ys : List String) : Bool :=
  if ordered then xs == ys
  else
    xs.mergeSort (fun a b => decide (a ≤ b)) == ys.mergeSort (fun a b => decide (a ≤ b))

/-- Whether two values of one base type hold the same; the order of members counts when one of the
values is ordered. -/
def matchValues (s : Scope) (tag : String) (left right : Value) : Logged Bool :=
  if left.baseType != right.baseType then
    s.fallback (.baseTypesDiffer tag left.baseType right.baseType) false
  else
    match canonicalTexts? left, canonicalTexts? right with
    | some xs, some ys =>
      pure (sameTexts (left.cardinality = .ordered || right.cardinality = .ordered) xs ys)
    | _, _ => s.fallback (.membersInvalid tag left.baseType) false

def compareValues (s : Scope) (node : Node) (kind : Comparison) (left right : Value) :
    Logged Bool :=
  let tag := node.name
  match kind with
  | .matching => s.matchValues tag left right
  | .equal =>
    match node.filledAttribute? "toleranceMode" with
    | some mode =>
      if mode != "exact" then s.fallback (.toleranceUnsupported mode) false
      else return (← s.ordering? tag left right) == some .eq
    | none => return (← s.ordering? tag left right) == some .eq
  | .gt => return (← s.ordering? tag left right) == some .gt
  | .gte => return (← s.ordering? tag left right).any fun o => o != .lt
  | .lt => return (← s.ordering? tag left right) == some .lt
  | .lte => return (← s.ordering? tag left right).any fun o => o != .gt

def comparisonHolds (s : Scope) (node : Node) (kind : Comparison) (values : List Value) :
    Logged Bool := do
  match ← s.pair? node.name values with
  | none => return false
  | some (left, right) => s.compareValues node kind left right

def sameText (s : Scope) (node : Node) (left right : Value) : Logged Bool :=
  match left.scalar, right.scalar with
  | some a, some b =>
    if caseSensitive node s.config.response.stringMatchCaseSensitive then pure (a == b)
    else pure (Text.lower a == Text.lower b)
  | _, _ => s.fallback (.notSingleValues node.name) false

def occursIn (s : Scope) (node : Node) (left right : Value) : Logged Bool :=
  if left.baseType != .string || right.baseType != .string then
    s.fallback (.notStringTypes node.name left.baseType right.baseType) false
  else
    let needle := left.scalar.getD ""
    let haystack := right.scalar.getD ""
    if needle.isEmpty || haystack.isEmpty then s.fallback (.operandEmpty node.name) false
    else if caseSensitive node s.config.response.substringCaseSensitive then
      pure (Text.contains haystack needle)
    else pure (Text.contains (Text.lower haystack) (Text.lower needle))

/-- Whether at most one value is there, and that is null. -/
def isNullValue (s : Scope) (tag : String) (values : List Value) : Logged Bool :=
  match values with
  | [] => pure true
  | [v] => pure v.isNull
  | _ => s.fallback (.notOneValue tag values.length) false

/-- Whether the value that stands as a condition is true. A missing value or scalar is no truth
value. -/
def valueHolds (s : Scope) (tag : String) (value : Option Value) : Logged Bool :=
  match readBoolean ((value.bind Value.scalar).getD "") with
  | .ok b => pure b
  | .error cause => s.fallback (.conditionNotBoolean tag cause) false

end Scope

end Rubric
