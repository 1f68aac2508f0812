import Rubric.Text.Blank
import Rubric.Text.Case

namespace Rubric

/-- The passes of a run: responses into item outcomes, item outcomes into test outcomes, or both. -/
inductive Stage where
  | responses | outcomes | all
deriving DecidableEq, Repr

namespace Stage

def includesResponses : Stage → Bool
  | responses | all => true
  | outcomes => false

def includesOutcomes : Stage → Bool
  | outcomes | all => true
  | responses => false

def name : Stage → String
  | responses => "responses"
  | outcomes => "outcomes"
  | all => "all"

def ofName? : String → Option Stage
  | "responses" => some responses
  | "outcomes" => some outcomes
  | "all" => some all
  | _ => none

/-- A stage as a user spells it: blanks around it and case do not matter. A spelling that names
none is handed back in its normal form. -/
def ofSpelling (s : String) : Except String Stage :=
  match Text.lower (Text.trim s) with
  | "responses" | "response" => .ok responses
  | "outcomes" | "outcome" => .ok outcomes
  | "all" => .ok all
  | other => .error other

end Stage

end Rubric
