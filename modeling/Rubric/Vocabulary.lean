import Rubric.Node

namespace Rubric

inductive Statement where
  | condition | branch | elseBranch | otherwise | setOutcomeValue
deriving DecidableEq, Repr

inductive Comparison where
  | equal | gt | gte | lt | lte | matching
deriving DecidableEq, Repr

inductive Predicate where
  | stringMatch | substring | isNull | and | or | not
deriving DecidableEq, Repr

inductive Expression where
  | variableValue | baseValue | correct | ordered | multiple | customOperator | testVariables
deriving DecidableEq, Repr

inductive Calculation where
  | sum | product | subtract | divide
deriving DecidableEq, Repr

namespace Statement

def ofTag? : String → Option Statement
  | "responsecondition" | "outcomecondition" => some condition
  | "responseif" | "outcomeif" => some branch
  | "responseelseif" | "outcomeelseif" => some elseBranch
  | "responseelse" | "outcomeelse" => some otherwise
  | "setoutcomevalue" => some setOutcomeValue
  | _ => none

end Statement

namespace Comparison

def ofTag? : String → Option Comparison
  | "equal" => some equal
  | "gt" => some gt
  | "gte" => some gte
  | "lt" => some lt
  | "lte" => some lte
  | "match" => some matching
  | _ => none

end Comparison

namespace Predicate

def ofTag? : String → Option Predicate
  | "stringmatch" => some stringMatch
  | "substring" => some substring
  | "isnull" => some isNull
  | "and" => some and
  | "or" => some or
  | "not" => some not
  | _ => none

end Predicate

namespace Expression

def ofTag? : String → Option Expression
  | "variable" => some variableValue
  | "basevalue" => some baseValue
  | "correct" => some correct
  | "ordered" => some ordered
  | "multiple" => some multiple
  | "customoperator" => some customOperator
  | "testvariables" => some testVariables
  | _ => none

end Expression

namespace Calculation

def ofTag? : String → Option Calculation
  | "sum" => some sum
  | "product" => some product
  | "subtract" => some subtract
  | "divide" => some divide
  | _ => none

end Calculation

inductive Role where
  | statement (kind : Statement)
  | comparison (kind : Comparison)
  | predicate (kind : Predicate)
  | expression (kind : Expression)
  | calculation (kind : Calculation)
  /-- The root of a processing tree. -/
  | root
  /-- No rule; the name as its author wrote it. -/
  | unknown (name : String)
deriving DecidableEq, Repr

namespace Node

def statement? (node : Node) : Option Statement :=
  Statement.ofTag? node.tag

def comparison? (node : Node) : Option Comparison :=
  Comparison.ofTag? node.tag

def predicate? (node : Node) : Option Predicate :=
  Predicate.ofTag? node.tag

def expression? (node : Node) : Option Expression :=
  Expression.ofTag? node.tag

def calculation? (node : Node) : Option Calculation :=
  Calculation.ofTag? node.tag

def role (node : Node) : Role :=
  let known : Option Role :=
    (node.statement?.map .statement).or <|
    (node.comparison?.map .comparison).or <|
    (node.predicate?.map .predicate).or <|
    (node.expression?.map .expression).or <|
    (node.calculation?.map .calculation).or <|
    if node.tag == "responseprocessing" || node.tag == "outcomeprocessing" then some .root else none
  known.getD (.unknown node.name)

end Node

/-- Whether a tag, in either dialect, is part of the vocabulary. -/
def knowsTag (tag : String) : Bool :=
  match Node.role { name := tag } with
  | .unknown _ => false
  | _ => true

def isOutcomeRoot (tag : String) : Bool :=
  normalTag tag == "outcomeprocessing"

end Rubric
