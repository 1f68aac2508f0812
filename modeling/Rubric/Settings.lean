import Rubric.Config
import Rubric.Host
import Rubric.Text.Blank
import Rubric.Text.Case
import Rubric.Toml.Reader

namespace Rubric

def ResponseOptions.ofToml? (t : Toml) : Option ResponseOptions := do
  let field ← t.record? ["string_match_case_sensitive", "substring_case_sensitive"]
  return {
    stringMatchCaseSensitive :=
      ← Toml.optional true Toml.boolean? (field "string_match_case_sensitive")
    substringCaseSensitive :=
      ← Toml.optional true Toml.boolean? (field "substring_case_sensitive") }

namespace Config

def ofToml? (t : Toml) : Option Config := do
  let field ← t.record?
    ["process_parallel", "parallelism", "max_branch_children", "derive_totals", "response"]
  return {
    processParallel := ← Toml.optional false Toml.boolean? (field "process_parallel")
    parallelism := ← Toml.optional 4 Toml.natural? (field "parallelism")
    maxBranchChildren := ← Toml.optional 100 Toml.natural? (field "max_branch_children")
    deriveTotals := ← Toml.optional true Toml.boolean? (field "derive_totals")
    response := ← Toml.optional {} ResponseOptions.ofToml? (field "response") }

def ofText (text : String) : Except Failure Config :=
  match (Toml.ofText? text).bind ofToml? with
  | some config => .ok config
  | none => .error { attempts := [.parseToml], cause := .malformedToml }

end Config

/-- Reads a flag of the environment; nothing counts as no. -/
def readFlag (raw : String) : Except Failure Bool :=
  match Text.lowerAscii (Text.trim raw) with
  | "1" | "true" | "yes" => .ok true
  | "0" | "false" | "no" | "" => .ok false
  | other => .error { attempts := [.readFlag raw], cause := .notFlag other }

def joinPath (directory name : String) : String :=
  if directory.isEmpty || directory.endsWith "/" then directory ++ name
  else s!"{directory}/{name}"

namespace Settings

variable {m : Type → Type} [Monad m] [Host m]

def localFile : String := "qtiscore.toml"

/-- The configuration file of a user, by the user's home directory. -/
def userFile (home : String) : String :=
  joinPath (joinPath (joinPath home ".config") "qtiscore") "config.toml"

/-- The configuration file to read: the one asked for, which has to be there, or else the first that
is found. -/
def findFile (path : Option String) : ExceptT Failure m (Option String) := do
  match path with
  | some path =>
    if ← pathExists path then return some path else throw { cause := .configMissing path }
  | none =>
    if ← pathExists localFile then return some localFile
    else
      match ← Host.environment? "HOME" with
      | none => return none
      | some home => return if ← pathExists (userFile home) then some (userFile home) else none

def readFile (path : String) : ExceptT Failure m Config := do
  let text ← attempting (.readConfig path) (readText path)
  attempting (.parseConfig path) (liftExcept (Config.ofText text))
where
  liftExcept {α : Type} (x : Except Failure α) : ExceptT Failure m α := ExceptT.mk (pure x)

/-- The configuration of a run: from a file or the defaults, with the environment's override, and
usable. -/
def load (path : Option String) : ExceptT Failure m Config := do
  let config ←
    match ← findFile path with
    | some file => readFile file
    | none => pure {}
  let config ←
    match ← Host.environment? parallelVariable with
    | none => pure config
    | some raw =>
      match readFlag raw with
      | .ok processParallel => pure { config with processParallel }
      | .error failure => throw failure
  match config.validate with
  | .ok () => return config
  | .error e => throw { cause := .scoring e }

end Settings

end Rubric
