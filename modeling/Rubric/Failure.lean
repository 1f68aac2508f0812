import Rubric.Config

namespace Rubric

inductive FileError where
  | missing | isDirectory | notDirectory | occupied | notText
  | other (message : String)
deriving DecidableEq, Repr

def FileError.message : FileError → String
  | missing => "No such file or directory (os error 2)"
  | isDirectory => "Is a directory (os error 21)"
  | notDirectory => "Not a directory (os error 20)"
  | occupied => "File exists (os error 17)"
  | notText => "stream did not contain valid UTF-8"
  | other message => message

inductive Attempt where
  | readConfig (path : String)
  | parseConfig (path : String)
  | parseToml
  | readFlag (raw : String)
  | readPackage (path : String)
  | parsePackage (path : String)
  | readTest (path : String)
  | parseTest (path : String)
  | listItems (path : String)
  | readItem (path : String)
  | parseItem (path : String)
  | readResults (path : String)
  | parseResults (path : String)
  | writeResults (path : String)
  | readReport (path : String)
  | parseReport
  | writeReport (path : String)
  | prepareEngine
deriving DecidableEq, Repr

def parallelVariable : String := "QTISCORE_PROCESS_PARALLEL"

def Attempt.message : Attempt → String
  | readConfig path => s!"failed to read config: {path}"
  | parseConfig path => s!"failed to parse config: {path}"
  | parseToml => "failed to parse TOML"
  | readFlag raw => s!"invalid {parallelVariable} value: '{raw}'"
  | readPackage path => s!"failed to read package: {path}"
  | parsePackage path => s!"failed to parse package JSON: {path}"
  | readTest path => s!"failed to read test: {path}"
  | parseTest path => s!"failed to parse test JSON: {path}"
  | listItems path => s!"failed to read directory: {path}"
  | readItem path => s!"failed to read item: {path}"
  | parseItem path => s!"failed to parse item JSON: {path}"
  | readResults path => s!"failed to read results: {path}"
  | parseResults path => s!"failed to parse results JSON: {path}"
  | writeResults path => s!"failed to write results to {path}"
  | readReport path => s!"failed to read report from {path}"
  | parseReport => "failed to parse report JSON"
  | writeReport path => s!"failed to write report to {path}"
  | prepareEngine => "failed to prepare scoring engine"

inductive Cause where
  | malformedJson
  | malformedToml
  | file (error : FileError)
  | scoring (error : ScoringError)
  | configMissing (path : String)
  | notFlag (text : String)
  | stageUnknown (spelling : String)
  | itemMissing (identifier : String)
deriving DecidableEq, Repr

def Cause.message : Cause → String
  | malformedJson => "not a JSON document of this kind"
  | malformedToml => "not a TOML document of this kind"
  | file error => error.message
  | scoring error => error.message
  | configMissing path => s!"config file not found: {path}"
  | notFlag text => s!"expected a boolean flag, got '{text}'"
  | stageUnknown spelling => s!"unknown stage: {spelling}"
  | itemMissing identifier => s!"item not found in package: {identifier}"

/-- A cause and the attempts that it ended, outermost first. -/
structure Failure where
  attempts : List Attempt := []
  cause : Cause
deriving DecidableEq, Repr

namespace Failure

/-- The failure seen from one attempt further out. -/
def within (attempt : Attempt) (f : Failure) : Failure :=
  { f with attempts := attempt :: f.attempts }

/-- The failure on one line, from the outermost attempt to the cause. -/
def message (f : Failure) : String :=
  String.intercalate ": " (f.attempts.map Attempt.message ++ [f.cause.message])

end Failure

end Rubric
