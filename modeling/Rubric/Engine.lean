import Rubric.Pool

namespace Rubric

/-- What an engine is made from. Every engine goes through its operators in an order of its own. -/
structure EngineInput where
  items : List Item := []
  test : Option Test := none
  operators : List CustomOperator := []
  checker : EquivalenceChecker := .textual
  config : Config := {}
  arrangement : Arrangement := .registered

/-- An engine ready to score. Its test reports the derived totals unless the configuration says
otherwise. -/
structure Engine where
  items : List Item
  test : Option Test
  environment : Environment

/-- The first text that stands in a list a second time. -/
def firstRepeated : List String → List String → Option String
  | _, [] => none
  | seen, x :: xs => if seen.contains x then some x else firstRepeated (x :: seen) xs

theorem firstRepeated_eq_none_iff {seen xs : List String} :
    firstRepeated seen xs = none ↔ xs.Nodup ∧ ∀ x ∈ xs, x ∉ seen := by
  induction xs generalizing seen with
  | nil => simp [firstRepeated]
  | cons x xs ih =>
    by_cases hx : x ∈ seen
    · simp [firstRepeated, hx]
    · simp only [firstRepeated, List.contains_eq_mem, hx, decide_false, Bool.false_eq_true,
        ↓reduceIte, ih, List.nodup_cons, List.mem_cons]
      constructor
      · rintro ⟨hd, hn⟩
        refine ⟨⟨fun h => hn x h (.inl rfl), hd⟩, ?_⟩
        rintro y (rfl | hy) hs
        · exact hx hs
        · exact hn y hy (.inr hs)
      · rintro ⟨⟨hn, hd⟩, hs⟩
        refine ⟨hd, ?_⟩
        rintro y hy (rfl | hys)
        · exact hn hy
        · exact hs y (.inr hy) hys

namespace Engine

def assemble (input : EngineInput) : Engine where
  items := input.items
  test := if input.config.deriveTotals then input.test.map Test.withDerivedTotals else input.test
  environment := {
    registry :=
      ((Registry.standard input.checker).registerAll input.operators).arranged input.arrangement
    config := input.config }

/-- Makes an engine ready, unless its configuration is unusable or two items share an
identifier. -/
def build (input : EngineInput) : Except ScoringError Engine := do
  input.config.validate
  match firstRepeated [] (input.items.map Item.identifier) with
  | some identifier => throw (.duplicateItem identifier)
  | none => return assemble input

def item? (engine : Engine) (identifier : String) : Option Item :=
  engine.items.find? fun item => item.identifier == identifier

/-- Refuses a stage for which the engine has no items or no test. -/
def checkInputs (engine : Engine) (stage : Stage) : Except ScoringError Unit :=
  if stage.includesResponses && engine.items.isEmpty then .error .missingItems
  else if stage.includesOutcomes && engine.test.isNone then .error .missingTest
  else .ok ()

def score (engine : Engine) (stage : Stage) (result : AssessmentResult) :
    Logged AssessmentResult := do
  let result ←
    if stage.includesResponses then engine.environment.scoreItems engine.items result
    else pure result
  match stage.includesOutcomes, engine.test with
  | true, some test => engine.environment.scoreTest test result
  | _, _ => pure result

/-- Scores one result if the engine has what the stage needs. -/
def scoreResult (engine : Engine) (stage : Stage) (result : AssessmentResult) :
    Except ScoringError (Logged AssessmentResult) := do
  engine.checkInputs stage
  return engine.score stage result

/-- Scores results one after the other and remarks each when it is done. -/
def scoreInTurn (engine : Engine) (stage : Stage) :
    List AssessmentResult → Logged (List AssessmentResult)
  | [] => pure []
  | result :: rest => do
    let scored ← engine.score stage result
    Logged.record (.completed scored)
    let others ← engine.scoreInTurn stage rest
    return scored :: others

/-- Scores results with a pool of workers. Courses other than the one taken here collect the results
in other orders. -/
def scoreInPool (engine : Engine) (stage : Stage) (batch : List AssessmentResult) :
    Logged (List AssessmentResult) :=
  let score := engine.score stage
  let pool := Pool.ofBatch engine.environment.config.parallelism batch
  let pool := (pool.run score (Pool.inOrder score batch)).getD pool
  { value := pool.collected, log := pool.log }

def closeBatch (stage : Stage) (size : Nat) (scored : Logged (List AssessmentResult)) :
    Logged (List AssessmentResult) := do
  let scored ← scored
  Logged.record (.batchCompleted size)
  Logged.record (.batchScored size stage)
  return scored

def process (engine : Engine) (stage : Stage) (batch : List AssessmentResult) :
    Except ScoringError (Logged (List AssessmentResult)) := do
  engine.checkInputs stage
  return closeBatch stage batch.length <|
    if engine.environment.config.processParallel then engine.scoreInPool stage batch
    else engine.scoreInTurn stage batch

def outcomeNumber? (result : ItemResult) (identifier : String) : Option Float := do
  let v ← result.outcome? identifier
  let text ← v.scalar
  (readNumber text).toOption

def clampUnit (x : Float) : Float :=
  if x < 0.0 then 0.0 else if x > 1.0 then 1.0 else x

/-- Scores an item and relates its score to the greatest one, which counts as 1 when it is not
known. Negative scores count as 0. -/
def normalizedScore (engine : Engine) (item : Item) (result : String) (r : ItemResult) :
    Logged (ItemResult × Float) := do
  let r ← engine.environment.scoreItem item result r
  let score := (outcomeNumber? r "SCORE").getD 0.0
  let score := if score > 0.0 then score else 0.0
  let maxScore := (outcomeNumber? r "MAXSCORE").getD 1.0
  if maxScore ≤ 0.0 then
    Logged.record (.problem (label item.identifier result) (.maxScoreNotPositive maxScore))
    return (r, 0.0)
  else return (r, clampUnit (score / maxScore))

end Engine

end Rubric
