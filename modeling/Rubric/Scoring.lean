import Rubric.Evaluate
import Rubric.Totals

namespace Rubric

structure Environment where
  registry : Registry
  config : Config

namespace Environment

def itemScope (env : Environment) (item : Item) (responses : List Variable) (result : String) :
    Scope where
  subject := .item item responses
  registry := env.registry
  config := env.config
  label := label item.identifier result

def testScope (env : Environment) (test : Test) (itemResults : List ItemResult) (result : String) :
    Scope where
  subject := .test test (OutcomeTable.ofResults itemResults)
  registry := env.registry
  config := env.config
  label := label test.identifier result

/-- Runs the statements under the root of a processing tree, if there is one. -/
def process (s : Scope) (root : Option Node) (store : Store) : Logged Store :=
  match root with
  | none => pure store
  | some root => s.executeAll root.children store

def scoreItem (env : Environment) (item : Item) (result : String) (r : ItemResult) :
    Logged ItemResult := do
  let store := r.outcomes.ensureAll item.outcomes
  let store ← process (env.itemScope item r.responses result) item.processing store
  return { r with outcomes := store }

/-- Scores a test from the outcomes recorded for its items. -/
def scoreTestResult (env : Environment) (test : Test) (itemResults : List ItemResult)
    (result : String) (r : TestResult) : Logged TestResult := do
  let store := r.outcomes.ensureAll test.outcomes
  let store ← process (env.testScope test itemResults result) test.processing store
  return { r with outcomes := store }

/-- Puts the first test result of an identifier, or else a new one at the end, through `f`. -/
def changeTestResult (identifier : String) (f : TestResult → Logged TestResult) :
    List TestResult → Logged (List TestResult)
  | [] => do return [← f { identifier }]
  | r :: rest =>
    if r.identifier = identifier then do return (← f r) :: rest
    else do return r :: (← changeTestResult identifier f rest)

def scoreTest (env : Environment) (test : Test) (result : AssessmentResult) :
    Logged AssessmentResult := do
  let score := env.scoreTestResult test result.itemResults result.identifier
  return { result with testResults := ← changeTestResult test.identifier score result.testResults }

/-- Puts the first item result of an identifier through `f`; without one, that is remarked. -/
def changeItemResult (identifier : String) (f : ItemResult → Logged ItemResult)
    (missing : Event) : List ItemResult → Logged (List ItemResult)
  | [] => do
    Logged.record missing
    return []
  | r :: rest =>
    if r.identifier = identifier then do return (← f r) :: rest
    else do return r :: (← changeItemResult identifier f missing rest)

/-- Scores one item within a result. -/
def scoreItemIn (env : Environment) (item : Item) (result : AssessmentResult) :
    Logged AssessmentResult := do
  let score := env.scoreItem item result.identifier
  let missing := Event.problem (label item.identifier result.identifier) .itemResultMissing
  return {
    result with
    itemResults := ← changeItemResult item.identifier score missing result.itemResults }

def scoreItems (env : Environment) : List Item → AssessmentResult → Logged AssessmentResult
  | [], result => pure result
  | item :: rest, result => do env.scoreItems rest (← env.scoreItemIn item result)

end Environment

end Rubric
