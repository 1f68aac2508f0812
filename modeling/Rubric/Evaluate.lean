import Rubric.Operand

namespace Rubric

namespace Scope

mutual

def resolve (s : Scope) (store : Store) : Node → Logged (Option Value)
  | node@⟨name, _, children, _⟩ =>
    match node.expression? with
    | some .variableValue => some <$> s.variableValue store node
    | some .baseValue => some <$> s.literal node
    | some .correct => s.correctValue? node
    | some .ordered => do s.containerOf? name .ordered (← s.resolveAll store children)
    | some .multiple => do s.containerOf? name .multiple (← s.resolveAll store children)
    | some .customOperator => do return some (← s.applyCustom node (← s.resolveAll store children))
    | some .testVariables => s.aggregate? node
    | none =>
      match node.calculation? with
      | some kind => do
        let x ← s.calculateFrom name kind (← s.resolveAll store children)
        return some (.number x)
      | none => s.fallback (.unknownExpression name) none

/-- The values of several nodes; a node without a value contributes none. -/
def resolveAll (s : Scope) (store : Store) : List Node → Logged (List Value)
  | [] => pure []
  | node :: rest => do
    let value ← s.resolve store node
    let values ← s.resolveAll store rest
    return value.toList ++ values

end

def calculate (s : Scope) (store : Store) (kind : Calculation) (node : Node) : Logged Float := do
  s.calculateFrom node.name kind (← s.resolveAll store node.children)

mutual

/-- Whether a node holds as a condition: a comparison, a predicate, or a value that is true. -/
def holds (s : Scope) (store : Store) : Node → Logged Bool
  | node@⟨name, _, children, _⟩ =>
    match node.comparison? with
    | some kind => do s.comparisonHolds node kind (← s.resolveAll store children)
    | none =>
      match node.predicate? with
      | some .stringMatch => do
        match ← s.pair? name (← s.resolveAll store children) with
        | none => return false
        | some (left, right) => s.sameText node left right
      | some .substring => do
        match ← s.pair? name (← s.resolveAll store children) with
        | none => return false
        | some (left, right) => s.occursIn node left right
      | some .isNull => do s.isNullValue name (← s.resolveAll store children)
      | some .and =>
        if children.isEmpty then s.fallback (.operandsMissing name) false
        else s.holdsAll store children
      | some .or => s.holdsAny store children
      | some .not => s.holdsNot store name children
      | none =>
        match node.expression? with
        | some _ => do s.valueHolds name (← s.resolve store node)
        | none => s.fallback (.unknownCondition name) false

/-- Whether all conditions hold, up to the first that does not. -/
def holdsAll (s : Scope) (store : Store) : List Node → Logged Bool
  | [] => pure true
  | node :: rest => do
    if ← s.holds store node then s.holdsAll store rest else return false

/-- Whether some condition holds, up to the first that does. -/
def holdsAny (s : Scope) (store : Store) : List Node → Logged Bool
  | [] => pure false
  | node :: rest => do
    if ← s.holds store node then return true else s.holdsAny store rest

/-- Whether the only condition of a negation does not hold. -/
def holdsNot (s : Scope) (store : Store) (tag : String) : List Node → Logged Bool
  | [node] => do return !(← s.holds store node)
  | _ => s.fallback (.notOneOperand tag) false

end

/-- The value that an assignment writes, if its operands yield at most one. Operands without a value
write the empty string. -/
def assigned? (s : Scope) (identifier : String) (values : List Value) : Logged (Option Value) :=
  match values with
  | [] => pure (some (.string ""))
  | [v] => pure (some v)
  | _ => s.fallback (.targetOverfilled identifier values.length) none

/-- The value of the operands of an assignment. A calculation that comes first decides alone. -/
def assignedValue? (s : Scope) (store : Store) (identifier : String) (operands : List Node) :
    Logged (Option Value) :=
  match operands.head?.bind fun first => first.calculation?.map fun kind => (first, kind) with
  | some (first, kind) => do return some (.number (← s.calculate store kind first))
  | none => do s.assigned? identifier (← s.resolveAll store operands)

/-- An assignment of a value to a declared outcome. It matches when the outcome is written. -/
def setOutcome (s : Scope) (node : Node) (store : Store) : Logged (Bool × Store) :=
  match node.filledAttribute? "identifier" with
  | none => s.fallback .targetMissing (false, store)
  | some identifier =>
    match s.outcome? identifier with
    | none => s.fallback (.targetUndeclared identifier) (false, store)
    | some declaration => do
      match ← s.assignedValue? store identifier node.children with
      | none => return (false, store)
      | some value => return (true, store.write declaration value)

/-- Remarks that a branch has more statements than are executed. -/
def remarkCut (s : Scope) (body : List Node) : Logged Unit :=
  if body.length > s.config.maxBranchChildren then
    s.report (.branchCut body.length s.config.maxBranchChildren)
  else pure ()

mutual

/-- Executes a statement. The answer says whether it matched, which ends a chain of branches. -/
def execute (s : Scope) : Node → Store → Logged (Bool × Store)
  | node@⟨name, _, children, _⟩, store =>
    match node.statement? with
    | some .condition => s.executeFirst children store
    | some .branch | some .elseBranch => s.executeBranch name children store
    | some .otherwise => do
      s.remarkCut children
      return (true, ← s.executeUpTo s.config.maxBranchChildren children store)
    | some .setOutcomeValue => s.setOutcome node store
    | none => s.fallback (.unknownStatement name) (false, store)

def executeFirst (s : Scope) : List Node → Store → Logged (Bool × Store)
  | [], store => pure (false, store)
  | node :: rest, store => do
    let (matched, store) ← s.execute node store
    if matched then return (true, store) else s.executeFirst rest store

/-- Executes the body of a branch if its condition, the first child, holds. -/
def executeBranch (s : Scope) (tag : String) : List Node → Store → Logged (Bool × Store)
  | [], store => s.fallback (.branchWithoutCondition tag) (false, store)
  | condition :: body, store => do
    if ← s.holds store condition then
      s.remarkCut body
      return (true, ← s.executeUpTo s.config.maxBranchChildren body store)
    else return (false, store)

/-- Executes the first `cap` statements, whether they match or not. -/
def executeUpTo (s : Scope) (cap : Nat) : List Node → Store → Logged Store
  | [], store => pure store
  | node :: rest, store =>
    match cap with
    | 0 => pure store
    | cap + 1 => do
      let (_, store) ← s.execute node store
      s.executeUpTo cap rest store

end

def executeAll (s : Scope) : List Node → Store → Logged Store
  | [], store => pure store
  | node :: rest, store => do
    let (_, store) ← s.execute node store
    s.executeAll rest store

end Scope

end Rubric
