import Rubric.Log

namespace Rubric

/-- A judge of whether a candidate expression is equivalent to one of the accepted ones. Setup code
is for judges that compute with symbols. -/
structure EquivalenceChecker where
  equivalent : Option String → String → List String → Bool

namespace EquivalenceChecker

def squeeze (expression : String) : String :=
  String.ofList (expression.toList.filter fun c => !Text.isBlank c)

/-- Whether two expressions are the same text, or the same number, once their blanks are gone. -/
def sameText (left right : String) : Bool :=
  let left := squeeze left
  let right := squeeze right
  left == right ||
    match readNumber left, readNumber right with
    | .ok a, .ok b => a == b
    | _, _ => false

/-- The judge that knows texts and numbers only. -/
def textual : EquivalenceChecker where
  equivalent _ candidate accepted := accepted.any (sameText candidate)

end EquivalenceChecker

structure CustomOperator where
  name : String
  apply : List Value → Logged Value
  /-- Operators are given values and nothing to report problems to. -/
  silent : ∀ values, (apply values).log.diagnostics = [] := by intro _; rfl

namespace CustomOperator

/-- The first operand without the blanks at the ends of its texts. -/
def trim : CustomOperator where
  name := "depcp:Trim"
  apply
    | [] => pure (.string "")
    | v :: _ => pure {
        v with
        scalar := v.scalar.map Text.trim
        members := v.members.map fun members => members.map Text.trim }
  silent values := by cases values <;> rfl

/-- The setup code that a leading operand named `setup` carries, and the other operands. -/
def takeSetup : List Value → Option String × List Value
  | [] => (none, [])
  | v :: rest =>
    if v.identifier = some "setup" then (some (v.scalar.getD ""), rest) else (none, v :: rest)

/-- Whether the first operand is equivalent to one of the others in the eyes of a checker; fewer
than two operands are never equivalent. -/
def mathEqual (checker : EquivalenceChecker) : CustomOperator where
  name := "depcp:MathEqual"
  apply values :=
    match takeSetup values with
    | (setup, candidate :: second :: others) => do
      let candidate := candidate.scalar.getD ""
      let accepted := (second :: others).filterMap Value.scalar
      Logged.record (.consulted setup candidate accepted)
      return .boolean (checker.equivalent setup candidate accepted)
    | _ => pure (.boolean false)
  silent values := by split <;> rfl

end CustomOperator

/-- An order in which a table of operators is gone through. It may be any order of the entries, and
another one once there are more. -/
structure Arrangement where
  arrange : List (String × CustomOperator) → List (String × CustomOperator)
  perm : ∀ entries, (arrange entries).Perm entries

/-- The order in which the keys were first registered. -/
def Arrangement.registered : Arrangement where
  arrange entries := entries
  perm entries := .refl entries

/-- The custom operators at hand, each under its name in lower case, in the order in which these
keys were first registered, and the order in which they are gone through. -/
structure Registry where
  entries : List (String × CustomOperator) := []
  arrangement : Arrangement := .registered

namespace Registry

/-- Puts an operator under a key, in place of one that is there. -/
def put (key : String) (operator : CustomOperator) :
    List (String × CustomOperator) → List (String × CustomOperator)
  | [] => [(key, operator)]
  | e :: rest => if e.1 = key then (key, operator) :: rest else e :: put key operator rest

/-- The registry with one more operator, which replaces one of the same name. -/
def register (r : Registry) (operator : CustomOperator) : Registry :=
  { r with entries := put (Text.lowerAscii operator.name) operator r.entries }

def registerAll (r : Registry) (operators : List CustomOperator) : Registry :=
  operators.foldl register r

def standard (checker : EquivalenceChecker) : Registry :=
  registerAll {} [.trim, .mathEqual checker]

/-- The same registry, gone through in an order of its own. -/
def arranged (r : Registry) (arrangement : Arrangement) : Registry :=
  { r with arrangement }

/-- The operator of a name: the one registered under it, else the first to be met with the same
local name. -/
def find? (r : Registry) (name : String) : Option CustomOperator :=
  let wanted := Text.lowerAscii (Text.trim name)
  let exact := r.entries.find? fun e => e.1 == wanted
  let sameLocal := (r.arrangement.arrange r.entries).find? fun e =>
    Text.afterLast ':' e.1 == Text.afterLast ':' wanted
  (exact.or sameLocal).map Prod.snd

def names (r : Registry) : List String :=
  (r.entries.map fun e => e.2.name).mergeSort (fun a b => decide (a ≤ b))

end Registry

end Rubric
