import Rubric.Node
import Rubric.Variable

namespace Rubric

/-- An item: the declarations of its variables and the rules that score a response. -/
structure Item where
  identifier : String
  outcomes : List OutcomeDeclaration := []
  responses : List ResponseDeclaration := []
  processing : Option Node := none
deriving Inhabited

/-- A test's reference to an item, with the categories and weights it has there. -/
structure ItemRef where
  identifier : String
  categories : TextSet := {}
  weights : Dictionary Float := {}
deriving DecidableEq, Inhabited

/-- A test: the items it refers to, the declarations of its outcomes and the rules for them. -/
structure Test where
  identifier : String
  itemRefs : List ItemRef := []
  outcomes : List OutcomeDeclaration := []
  processing : Option Node := none
deriving Inhabited

structure ItemResult where
  identifier : String
  responses : List Variable := []
  outcomes : Store := []
deriving DecidableEq, Repr, Inhabited

structure TestResult where
  identifier : String
  outcomes : Store := []
deriving DecidableEq, Repr, Inhabited

/-- The results of one candidate in one session. -/
structure AssessmentResult where
  identifier : String
  itemResults : List ItemResult := []
  testResults : List TestResult := []
deriving DecidableEq, Repr, Inhabited

namespace Item

def outcome? (item : Item) (identifier : String) : Option OutcomeDeclaration :=
  OutcomeDeclaration.find? item.outcomes identifier

def response? (item : Item) (identifier : String) : Option ResponseDeclaration :=
  item.responses.find? fun d => d.identifier == identifier

end Item

namespace Test

def itemRef? (test : Test) (identifier : String) : Option ItemRef :=
  test.itemRefs.find? fun r => r.identifier == identifier

def outcome? (test : Test) (identifier : String) : Option OutcomeDeclaration :=
  OutcomeDeclaration.find? test.outcomes identifier

end Test

namespace ItemResult

def response? (result : ItemResult) (identifier : String) : Option Variable :=
  Variable.find? result.responses identifier

def outcome? (result : ItemResult) (identifier : String) : Option Variable :=
  Variable.find? result.outcomes identifier

end ItemResult

def TestResult.outcome? (result : TestResult) (identifier : String) : Option Variable :=
  Variable.find? result.outcomes identifier

namespace AssessmentResult

def itemResult? (result : AssessmentResult) (identifier : String) : Option ItemResult :=
  result.itemResults.find? fun r => r.identifier == identifier

def testResult? (result : AssessmentResult) (identifier : String) : Option TestResult :=
  result.testResults.find? fun r => r.identifier == identifier

def itemScalar? (result : AssessmentResult) (item outcome : String) : Option String := do
  let itemResult ← result.itemResult? item
  let v ← itemResult.outcome? outcome
  v.scalar

def testScalar? (result : AssessmentResult) (test outcome : String) : Option String := do
  let testResult ← result.testResult? test
  let v ← testResult.outcome? outcome
  v.scalar

end AssessmentResult

/-- The first element with a property put through `f`; the others stay. -/
def updateFirst {α : Type} (p : α → Bool) (f : α → α) : List α → List α
  | [] => []
  | x :: xs => if p x then f x :: xs else x :: updateFirst p f xs

end Rubric
