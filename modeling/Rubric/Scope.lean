import Rubric.Config
import Rubric.CustomOperator
import Rubric.Document

namespace Rubric

/-- The key of an item outcome among all recorded item outcomes. -/
def outcomeKey (item outcome : String) : String :=
  s!"{item}.{outcome}"

/-- The recorded item outcomes of a result under their keys, in the order of the documents. -/
abbrev OutcomeTable := List (String × Variable)

namespace OutcomeTable

def ofResults (results : List ItemResult) : OutcomeTable :=
  results.flatMap fun r => r.outcomes.map fun v => (outcomeKey r.identifier v.identifier, v)

/-- The outcome of a key; of several the last counts. -/
def find? (table : OutcomeTable) (key : String) : Option Variable :=
  (table.reverse.find? fun e => e.1 == key).map Prod.snd

end OutcomeTable

inductive Subject where
  | item (item : Item) (responses : List Variable)
  | test (test : Test) (table : OutcomeTable)

structure Scope where
  subject : Subject
  registry : Registry
  config : Config
  label : String

/-- The categories that an aggregate asks for and those that it leaves out. -/
structure CategoryFilter where
  included : List String := []
  excluded : List String := []
deriving DecidableEq, Repr

namespace CategoryFilter

def ofNode (node : Node) : CategoryFilter where
  included := ((node.attribute? "includeCategory").map Text.words).getD []
  excluded := ((node.attribute? "excludeCategory").map Text.words).getD []

/-- Whether an item counts. No excluded category may be among its own, and the first included one
has to be; further included ones are not looked at. -/
def admits (f : CategoryFilter) (ref : ItemRef) : Bool :=
  !(f.excluded.any ref.categories.contains) && f.included.head?.all ref.categories.contains

end CategoryFilter

namespace Scope

def report (s : Scope) (problem : Problem) : Logged Unit :=
  Logged.record (.problem s.label problem)

/-- Puts a problem on record and goes on with a default. -/
def fallback {α : Type} (s : Scope) (problem : Problem) (default : α) : Logged α := do
  s.report problem
  return default

@[simp]
theorem value_report (s : Scope) (problem : Problem) : (s.report problem).value = () := rfl

@[simp]
theorem log_report (s : Scope) (problem : Problem) :
    (s.report problem).log = [.problem s.label problem] := rfl

@[simp]
theorem value_fallback {α : Type} (s : Scope) (problem : Problem) (default : α) :
    (s.fallback problem default).value = default := rfl

@[simp]
theorem log_fallback {α : Type} (s : Scope) (problem : Problem) (default : α) :
    (s.fallback problem default).log = [.problem s.label problem] := rfl

def unresolved (identifier : String) : Value :=
  (Value.number 0.0).named identifier

def outcome? (s : Scope) (identifier : String) : Option OutcomeDeclaration :=
  match s.subject with
  | .item item _ => item.outcome? identifier
  | .test test _ => test.outcome? identifier

/-- The value of a variable in response processing: the recorded response in its declared shape,
else the outcome written so far, else the default of a declared outcome, else the empty value of a
declared response. -/
def responseValue? (item : Item) (responses : List Variable) (store : Store) (identifier : String) :
    Option Value :=
  let declaration := item.response? identifier
  let recorded := (Variable.find? responses identifier).map fun v =>
    ((declaration.map v.shapedBy).getD v).value
  let written := (Variable.find? store identifier).map Variable.value
  let declared := (item.outcome? identifier).map fun d => d.toVariable.value
  let empty := declaration.map fun d => d.toVariable.value
  recorded.or (written.or (declared.or empty))

/-- An item outcome multiplied by one of the weights that the test gives the item. Without such a
weight, or without a number to multiply, the value stays as it is. -/
def weighted (s : Scope) (ref : ItemRef) (weight key : String) (value : Value) : Logged Value :=
  match ref.weights.get? weight with
  | none => s.fallback (.weightUndeclared weight key) value
  | some factor =>
    match value.asNumber with
    | .ok x => return (Value.number (x * factor)).named key
    | .error cause => s.fallback (.weightInapplicable weight key cause) value

/-- An item outcome, if it is recorded and the test refers to the item; how serious a missing
record is depends on who asks. -/
def itemOutcome? (s : Scope) (test : Test) (table : OutcomeTable) (item outcome : String)
    (weight : Option String) (missing : Severity) : Logged (Option Value) :=
  match test.itemRef? item with
  | none => s.fallback (.itemRefUnknown item) none
  | some ref =>
    let key := outcomeKey item outcome
    match table.find? key with
    | none => s.fallback (.itemOutcomeMissing missing key) none
    | some v =>
      let value := v.value.named key
      match weight with
      | none => pure (some value)
      | some weight => some <$> s.weighted ref weight key value

/-- The value of a variable in outcome processing: the test outcome written so far, else the
default of a declared one, else the item outcome that an identifier `item.outcome` names, cut at its
last dot. -/
def outcomeValue (s : Scope) (test : Test) (table : OutcomeTable) (store : Store) (node : Node)
    (identifier : String) : Logged Value :=
  let written := (Variable.find? store identifier).map Variable.value
  let declared := (test.outcome? identifier).map fun d => d.toVariable.value
  match written.or declared with
  | some value => pure value
  | none =>
    match Text.cutLast '.' identifier with
    | some (item, outcome) => do
      let weight := node.filledAttribute? "weightIdentifier"
      let value ← s.itemOutcome? test table item outcome weight .error
      return value.getD (unresolved identifier)
    | none => s.fallback (.variableUnknown identifier) (unresolved identifier)

def variableValue (s : Scope) (store : Store) (node : Node) : Logged Value :=
  let identifier := node.identifier
  if identifier.isEmpty then s.fallback .variableUnnamed (unresolved identifier)
  else
    match s.subject with
    | .item item responses =>
      match responseValue? item responses store identifier with
      | some value => pure value
      | none => s.fallback (.variableUnknown identifier) (unresolved identifier)
    | .test test table => s.outcomeValue test table store node identifier

/-- The value of a `correct` node, if one is declared. -/
def correctValue? (s : Scope) (node : Node) : Logged (Option Value) :=
  match s.subject with
  | .item item _ =>
    let identifier := node.identifier
    match item.response? identifier with
    | none => s.fallback (.responseUndeclared identifier) none
    | some declaration =>
      match declaration.correctValue? with
      | none => s.fallback (.correctMissing identifier) none
      | some value => pure (some (value.named identifier))
  | .test _ _ => s.fallback (.onlyInResponseProcessing node.name) none

/-- The sum of an outcome over items. Outcomes that are not recorded or no number add nothing. -/
def sumOutcomes (s : Scope) (test : Test) (table : OutcomeTable) (outcome : String)
    (weight : Option String) (total : Float) : List ItemRef → Logged Float
  | [] => pure total
  | ref :: refs => do
    match ← s.itemOutcome? test table ref.identifier outcome weight .warning with
    | none => s.sumOutcomes test table outcome weight total refs
    | some value =>
      match value.asNumber with
      | .ok x => s.sumOutcomes test table outcome weight (total + x) refs
      | .error cause => do
        Logged.record (.skipped ref.identifier cause)
        s.sumOutcomes test table outcome weight total refs

/-- The value of a `testVariables` node: the sum of an outcome over the items of the categories that
the node asks for. -/
def aggregate? (s : Scope) (node : Node) : Logged (Option Value) :=
  match s.subject with
  | .item _ _ => s.fallback (.onlyInOutcomeProcessing node.name) none
  | .test test table =>
    match node.filledAttribute? "variableIdentifier" with
    | none => s.fallback .aggregateUnnamed none
    | some outcome => do
      let refs := test.itemRefs.filter (CategoryFilter.ofNode node).admits
      let weight := node.filledAttribute? "weightIdentifier"
      let total ← s.sumOutcomes test table outcome weight 0.0 refs
      return some ((Value.number total).named outcome)

end Scope

end Rubric
