namespace Rubric

/-- How texts are compared when a rule does not say. -/
structure ResponseOptions where
  stringMatchCaseSensitive : Bool := true
  substringCaseSensitive : Bool := true
deriving DecidableEq, Repr, Inhabited

structure Config where
  /-- Whether the results of a batch are scored at the same time. -/
  processParallel : Bool := false
  /-- How many results may be scored at the same time. -/
  parallelism : Nat := 4
  /-- How many statements of one branch are executed. -/
  maxBranchChildren : Nat := 100
  /-- Whether tests report totals that they do not compute themselves. -/
  deriveTotals : Bool := true
  response : ResponseOptions := {}
deriving DecidableEq, Repr, Inhabited

inductive ScoringError where
  | missingTest
  | missingItems
  | invalidConfig (reason : String)
  | duplicateItem (identifier : String)
deriving DecidableEq, Repr

def ScoringError.message : ScoringError → String
  | missingTest => "assessment test is required for outcome processing"
  | missingItems => "assessment items are required for response processing"
  | invalidConfig reason => s!"invalid configuration: {reason}"
  | duplicateItem identifier => s!"duplicate assessment item identifier: {identifier}"

namespace Config

/-- Refuses settings under which nothing could be scored. -/
def validate (c : Config) : Except ScoringError Unit :=
  if c.parallelism = 0 then .error (.invalidConfig "parallelism must be at least 1")
  else if c.maxBranchChildren = 0 then
    .error (.invalidConfig "max_branch_children must be at least 1")
  else .ok ()

end Config

end Rubric
