import Rubric.Engine
import Rubric.Storage
import Rubric.Table

namespace Rubric

structure RunOptions where
  package : String
  results : String
  stage : String := "all"
  parallel : Bool := false
  output : String := "./qtiscore-report.json"
  config : Option String := none
deriving DecidableEq, Repr

structure ScoreOptions where
  package : String
  results : String
  item : String
  config : Option String := none
deriving DecidableEq, Repr

inductive Command where
  | run (options : RunOptions)
  | score (options : ScoreOptions)
  | validate (package : String)
deriving DecidableEq, Repr

/-- The summary of a report as a table; a result without outcomes has a row of dashes. -/
def Report.table (report : Report) : Table where
  head := ["Result", "Outcome", "Value"]
  rows := report.summary.flatMap fun row =>
    if row.outcomes.isEmpty then [[row.result, "-", "-"]]
    else row.outcomes.map fun o => [row.result, o.1, o.2]

namespace Command

variable {m : Type → Type} [Monad m] [Host m]

def prepare (input : EngineInput) : ExceptT Failure m Engine :=
  match Engine.build input with
  | .ok engine => pure engine
  | .error e => throw { attempts := [.prepareEngine], cause := .scoring e }

def secondsText (milliseconds : Nat) : String :=
  Decimal.fixedText 1 (Float.ofScientific milliseconds true 3)

/-- Tells of an event: progress as a remark, all else on record. -/
def announce (elapsed : Nat) : Event → ExceptT Failure m Unit
  | .resultCompleted result items => Host.remark s!"  Done: {result} ({items} item results)"
  | .batchCompleted results =>
    Host.remark s!"\nComplete: {results} results ({secondsText elapsed}s)"
  | event => Host.record event

def reportOn (engine : Engine) (stage : Stage) (results : List AssessmentResult) :
    ExceptT Failure m Report := do
  let start ← Host.clock
  match engine.process stage results with
  | .error e => throw { cause := .scoring e }
  | .ok scored =>
    let duration := (← Host.clock) - start
    scored.log.forM (announce duration)
    let (id, createdAt) := (← Host.freshId, ← Host.now)
    return { id, createdAt, stage, duration, results := scored.value }

/-- Scores a batch, prints its summary, and saves the report. -/
def executeRun (o : RunOptions) : ExceptT Failure m Unit := do
  let stage ←
    match Stage.ofSpelling o.stage with
    | .ok stage => pure stage
    | .error spelling => throw { cause := .stageUnknown spelling }
  let config ← Settings.load o.config
  let config := if o.parallel then { config with processParallel := true } else config
  let package ← Storage.loadPackage o.package
  let results ← Storage.loadResults o.results
  let (count, items) := (results.length, package.items.length)
  Host.remark s!"Scoring {count} results against {items} items ({stage.name})"
  let engine ← prepare { items := package.items, test := package.test, config }
  let report ← reportOn engine stage results
  Host.print report.table.text
  Storage.saveReport o.output report
  Host.remark s!"Report saved to: {o.output}"

def printScore (engine : Engine) (item : Item) (result : AssessmentResult) :
    ExceptT Failure m Unit := do
  match result.itemResult? item.identifier with
  | none => Host.print s!"{result.identifier}\t-"
  | some r =>
    let scored := engine.normalizedScore item result.identifier r
    scored.log.forM Host.record
    let text := Decimal.fixedText 4 scored.value.2
    Host.print s!"{result.identifier}\t{text}"

/-- Prints the scores of an item, one result to a line. -/
def executeScore (o : ScoreOptions) : ExceptT Failure m Unit := do
  let config ← Settings.load o.config
  let package ← Storage.loadPackage o.package
  let results ← Storage.loadResults o.results
  match package.items.find? fun item => item.identifier == o.item with
  | none => throw { cause := .itemMissing o.item }
  | some item =>
    let engine ← prepare { items := [item], config }
    results.forM (printScore engine item)

def executeValidate (path : String) : ExceptT Failure m Unit := do
  let package ← Storage.loadPackage path
  let items := package.items.length
  match package.test with
  | some test =>
    Host.print s!"Package: {test.identifier} ({items} items, {test.itemRefs.length} item refs)"
  | none => Host.print s!"Package: ({items} items, no test)"
  let findings := package.validate (Registry.standard .textual)
  findings.forM fun f => Host.print s!"  [{f.scope}] WARNING: {f.flaw.message}"
  if findings.isEmpty then Host.print "Package valid."
  else Host.print s!"\n{findings.length} warning(s) found."

def execute : Command → ExceptT Failure m Unit
  | run options => executeRun options
  | score options => executeScore options
  | validate package => executeValidate package

end Command

end Rubric
