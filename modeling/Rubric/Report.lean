import Rubric.Format
import Rubric.Stage
import Rubric.Timestamp
import Rubric.Uuid

namespace Rubric

structure Report where
  id : Uuid
  createdAt : Timestamp
  stage : Stage
  /-- How long the run took, in milliseconds. -/
  duration : Nat
  results : List AssessmentResult
deriving DecidableEq

/-- What a summary shows of one result: its test outcomes and their content. -/
structure SummaryRow where
  result : String
  outcomes : List (String × String)
deriving DecidableEq, Repr

namespace SummaryRow

/-- The content of a variable in one text: its scalar, or else its members with spaces between. -/
def content (v : Variable) : String :=
  v.scalar.getD (String.intercalate " " v.members)

/-- Whether one outcome comes before another: by identifier, then by content. -/
def precedes (a b : String × String) : Bool :=
  a.1 < b.1 || (a.1 == b.1 && decide (a.2 ≤ b.2))

def ofResult (r : AssessmentResult) : SummaryRow where
  result := r.identifier
  outcomes :=
    ((r.testResults.flatMap TestResult.outcomes).map fun v => (v.identifier, content v)).mergeSort
      precedes

end SummaryRow

namespace Report

/-- The rows of all results in the order of their identifiers. -/
def summary (report : Report) : List SummaryRow :=
  (report.results.map SummaryRow.ofResult).mergeSort fun a b => decide (a.result ≤ b.result)

def toJson (report : Report) : Json :=
  .object [("id", .string report.id.text), ("created_at", .string report.createdAt.text),
    ("stage", .string report.stage.name), ("duration_ms", .number (.natural report.duration)),
    ("results", .array (report.results.map AssessmentResult.toJson))]

def ofJson? (j : Json) : Option Report := do
  let field ← j.record? ["id", "created_at", "stage", "duration_ms", "results"]
  let id ← Json.required Json.text? (field "id")
  let createdAt ← Json.required Json.text? (field "created_at")
  return {
    id := ← Uuid.ofText? id
    createdAt := ← Timestamp.ofText? createdAt
    stage := ← Json.required (Json.choice? Stage.ofName?) (field "stage")
    duration := ← Json.required Json.natural? (field "duration_ms")
    results := ← Json.required (Json.list? AssessmentResult.ofJson?) (field "results") }

end Report

end Rubric
