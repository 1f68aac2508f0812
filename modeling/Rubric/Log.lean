import Rubric.Stage
import Rubric.Value

namespace Rubric

inductive Severity where
  | info | warning | error
deriving DecidableEq, Repr

namespace Severity

def name : Severity → String
  | info => "info"
  | warning => "warning"
  | error => "error"

def ofName? : String → Option Severity
  | "info" => some info
  | "warning" => some warning
  | "error" => some error
  | _ => none

def level : Severity → String
  | info => "INFO"
  | warning => "WARN"
  | error => "ERROR"

end Severity

structure Diagnostic where
  severity : Severity
  message : String
deriving DecidableEq, Repr

namespace Diagnostic

def line (d : Diagnostic) : String :=
  s!"{d.severity.level} qtiscore: {d.message}"

/-- How many diagnostics of a severity have a text in their message. -/
def count (ds : List Diagnostic) (severity : Severity) (needle : String) : Nat :=
  ds.countP fun d => d.severity == severity && Text.contains d.message needle

end Diagnostic

/-- What went wrong, or was worth a remark, while a rule was evaluated. A `tag` is the name of the
node as its author wrote it. -/
inductive Problem where
  | unknownStatement (tag : String)
  | unknownCondition (tag : String)
  | unknownExpression (tag : String)
  | branchWithoutCondition (tag : String)
  | branchCut (statements cap : Nat)
  | targetMissing
  | targetUndeclared (identifier : String)
  | targetOverfilled (identifier : String) (values : Nat)
  | conditionNotBoolean (tag : String) (cause : ValueError)
  | baseTypeUnknown (spelling tag : String)
  | baseTypesMixed (tag : String) (expected found : BaseType)
  | baseTypesDiffer (tag : String) (left right : BaseType)
  | membersInvalid (tag : String) (baseType : BaseType)
  | notNumericTypes (tag : String) (left right : BaseType)
  | notStringTypes (tag : String) (left right : BaseType)
  | notSingleValues (tag : String)
  | operandUnreadable (tag : String) (cause : ValueError)
  | operandCountedAsZero (tag : String) (cause : ValueError)
  | operandEmpty (tag : String)
  | operandsMissing (tag : String)
  | notTwoOperands (tag : String) (found : Nat)
  | notOneValue (tag : String) (found : Nat)
  | notOneOperand (tag : String)
  | divisionByZero (tag : String)
  | toleranceUnsupported (mode : String)
  | operatorUnregistered (name : String)
  | variableUnnamed
  | variableUnknown (identifier : String)
  | responseUndeclared (identifier : String)
  | correctMissing (identifier : String)
  | onlyInOutcomeProcessing (tag : String)
  | onlyInResponseProcessing (tag : String)
  | aggregateUnnamed
  | itemRefUnknown (item : String)
  | itemOutcomeMissing (severity : Severity) (key : String)
  | weightUndeclared (weight key : String)
  | weightInapplicable (weight key : String) (cause : ValueError)
  | itemResultMissing
  | maxScoreNotPositive (maxScore : Float)
deriving DecidableEq

namespace Problem

/-- How serious a problem is. A value that a default can stand for is a warning; a rule that cannot
be followed is an error. -/
def severity : Problem → Severity
  | branchCut .. | baseTypeUnknown .. | operandCountedAsZero .. | operandEmpty _
  | weightUndeclared .. | weightInapplicable .. | maxScoreNotPositive _ => .warning
  | itemResultMissing => .info
  | itemOutcomeMissing severity _ => severity
  | _ => .error

def message : Problem → String
  | unknownStatement tag => s!"Cannot find executor for tag: {tag}"
  | unknownCondition tag => s!"Cannot find operator for tag: {tag}"
  | unknownExpression tag => s!"Cannot find expression for tag: {tag}"
  | branchWithoutCondition tag => s!"{tag} has no condition"
  | branchCut statements cap =>
    s!"Branch has {statements} statements, only the first {cap} are executed"
  | targetMissing => "Cannot find attribute identifier"
  | targetUndeclared identifier => s!"Cannot find outcomeDeclaration: {identifier}"
  | targetOverfilled identifier values =>
    s!"setOutcomeValue {identifier} resolved {values} values, expected one"
  | conditionNotBoolean tag cause => s!"Condition {tag} is not boolean: {cause.message}"
  | baseTypeUnknown spelling tag => s!"unknown base type: {spelling}, treating {tag} as string"
  | baseTypesMixed tag expected found =>
    s!"{tag} mixes base types {expected.name} and {found.name}"
  | baseTypesDiffer tag left right =>
    s!"{tag} requires identical base types, got {left.name} and {right.name}"
  | membersInvalid tag baseType => s!"{tag}: values are not valid {baseType.name}"
  | notNumericTypes tag left right =>
    s!"{tag} requires numeric values, got {left.name} and {right.name}"
  | notStringTypes tag left right =>
    s!"{tag} requires string values, got {left.name} and {right.name}"
  | notSingleValues tag => s!"{tag} requires single values"
  | operandUnreadable tag cause => s!"{tag}: {cause.message}"
  | operandCountedAsZero tag cause => s!"{tag}: {cause.message}, using 0"
  | operandEmpty tag => s!"{tag} has an empty operand"
  | operandsMissing tag => s!"{tag} has no operands"
  | notTwoOperands tag found => s!"{tag} requires 2 values, got {found}"
  | notOneValue tag found => s!"{tag} requires 1 value, got {found}"
  | notOneOperand tag => s!"{tag} requires exactly one operand"
  | divisionByZero tag => s!"{tag}: division by zero"
  | toleranceUnsupported mode => s!"toleranceMode {mode} is not supported"
  | operatorUnregistered name => s!"Cannot find custom operator: {name}"
  | variableUnnamed => "Cannot find attribute identifier on variable"
  | variableUnknown identifier => s!"Cannot find variable: {identifier}"
  | responseUndeclared identifier => s!"Cannot find responseDeclaration: {identifier}"
  | correctMissing identifier => s!"No correct response declared for: {identifier}"
  | onlyInOutcomeProcessing tag => s!"{tag} is only available in outcome processing"
  | onlyInResponseProcessing tag => s!"{tag} is only available in response processing"
  | aggregateUnnamed => "Cannot find attribute variable-identifier on testVariables"
  | itemRefUnknown item => s!"Cannot find assessmentItemRef: {item}"
  | itemOutcomeMissing _ key => s!"Cannot find assessmentItemRef outcomeVariable: {key}"
  | weightUndeclared weight key => s!"Cannot find weight with identifier: {weight} from item: {key}"
  | weightInapplicable weight key cause =>
    s!"Cannot apply weight {weight} to {key}: {cause.message}"
  | itemResultMissing => "no item result, skipping"
  | maxScoreNotPositive maxScore =>
    s!"MAXSCORE {Decimal.text maxScore} is not positive, score is 0"

end Problem

/-- The label of everything that is recorded while one item or test is evaluated for one result. -/
def label (scope result : String) : String :=
  s!"{scope} - {result}"

/-- One entry of the record of a run. -/
inductive Event where
  /-- A problem met under a label. -/
  | problem (label : String) (cause : Problem)
  /-- An item outcome left out of an aggregate because it is no number. -/
  | skipped (item : String) (cause : ValueError)
  /-- A question put to the checker of mathematical equivalence. -/
  | consulted (setup : Option String) (candidate : String) (accepted : List String)
  /-- A package read from a directory. -/
  | packageLoaded (directory : String) (items : Nat) (hasTest : Bool)
  /-- A result of a batch scored, with the number of its item results. -/
  | resultCompleted (result : String) (itemResults : Nat)
  /-- All results of a batch scored. -/
  | batchCompleted (results : Nat)
  /-- A batch handed back. -/
  | batchScored (results : Nat) (stage : Stage)
deriving DecidableEq

namespace Event

/-- The diagnostic that an event amounts to; the others are seen only in a trace. -/
def diagnostic? : Event → Option Diagnostic
  | problem label cause => some ⟨cause.severity, s!"{label}: {cause.message}"⟩
  | _ => none

/-- The wording of an event in a trace, for those that appear there. -/
def note? : Event → Option String
  | skipped item cause => some s!"skipping {item}: {cause.message}"
  | packageLoaded directory items hasTest =>
    some s!"loaded package from {directory} ({items} items, test: {hasTest})"
  | batchScored results stage => some s!"scored {results} results ({stage.name})"
  | _ => none

end Event

/-- The events of a run, oldest first. -/
abbrev Log := List Event

namespace Log

def diagnostics (log : Log) : List Diagnostic :=
  log.filterMap Event.diagnostic?

@[simp]
theorem diagnostics_nil : diagnostics [] = [] := rfl

@[simp]
theorem diagnostics_append (xs ys : Log) :
    diagnostics (xs ++ ys) = xs.diagnostics ++ ys.diagnostics :=
  List.filterMap_append

end Log

/-- A value and the events recorded while it was computed. -/
structure Logged (α : Type) where
  value : α
  log : Log := []
deriving DecidableEq

namespace Logged

variable {α β : Type}

instance : Monad Logged where
  pure a := { value := a }
  bind x f := { value := (f x.value).value, log := x.log ++ (f x.value).log }

def record (event : Event) : Logged Unit :=
  { value := (), log := [event] }

@[ext]
theorem ext {x y : Logged α} (hv : x.value = y.value) (hl : x.log = y.log) : x = y := by
  cases x
  cases y
  simp_all

@[simp]
theorem value_pure (a : α) : (pure a : Logged α).value = a := rfl

@[simp]
theorem log_pure (a : α) : (pure a : Logged α).log = [] := rfl

@[simp]
theorem value_bind (x : Logged α) (f : α → Logged β) : (x >>= f).value = (f x.value).value := rfl

@[simp]
theorem log_bind (x : Logged α) (f : α → Logged β) :
    (x >>= f).log = x.log ++ (f x.value).log := rfl

@[simp]
theorem value_map (f : α → β) (x : Logged α) : (f <$> x).value = f x.value := rfl

@[simp]
theorem log_map (f : α → β) (x : Logged α) : (f <$> x).log = x.log :=
  List.append_nil x.log

@[simp]
theorem value_record (event : Event) : (record event).value = () := rfl

@[simp]
theorem log_record (event : Event) : (record event).log = [event] := rfl

instance : LawfulMonad Logged :=
  LawfulMonad.mk' Logged (fun x => by ext1 <;> simp [Functor.map]) (fun a f => by ext1 <;> simp)
    (fun x f g => by ext1 <;> simp)

end Logged

end Rubric
