import Rubric.Command

namespace Rubric

/-- The options of a command: those whose value is a path, those whose value is any text, and those
without a value. -/
structure OptionNames where
  paths : List String := []
  texts : List String := []
  flags : List String := []
deriving DecidableEq, Repr

inductive Detour where
  | help | version
  /-- The arguments are not understood. -/
  | misuse
deriving DecidableEq, Repr

abbrev GivenOptions := List (String × String)

namespace OptionNames

/-- The option that an argument names, and the value after an equals sign. -/
def split? (argument : String) : Option (String × Option String) :=
  match argument.toList with
  | '-' :: '-' :: cs =>
    match cs.dropWhile (· != '=') with
    | [] => some (String.ofList cs, none)
    | _ :: value => some (String.ofList (cs.takeWhile (· != '=')), some (String.ofList value))
  | _ => none

/-- Whether an argument cannot be the value of the option before it. -/
def isOption (argument : String) : Bool :=
  argument.startsWith "-" && argument != "-"

/-- The given options with one more, which must not be there yet; a path must not be empty. -/
def give (names : OptionNames) (given : GivenOptions) (name value : String) :
    Except Detour GivenOptions :=
  if (given.lookup name).isSome || (names.paths.contains name && value.isEmpty) then .error .misuse
  else .ok (given ++ [(name, value)])

/-- Reads the arguments after a command. A lone `--` may end them. -/
def read (names : OptionNames) (given : GivenOptions) : List String → Except Detour GivenOptions
  | [] => .ok given
  | argument :: rest =>
    match split? argument, rest with
    | none, _ => .error (if argument.startsWith "-h" then .help else .misuse)
    | some ("", none), [] => .ok given
    | some ("help", none), _ => .error .help
    | some (name, attached), rest =>
      if names.flags.contains name && attached.isNone then do
        names.read (← names.give given name "") rest
      else if names.paths.contains name || names.texts.contains name then
        match attached, rest with
        | some value, rest => do names.read (← names.give given name value) rest
        | none, value :: rest =>
          if isOption value then .error .misuse
          else do names.read (← names.give given name value) rest
        | none, [] => .error .misuse
      else .error .misuse

end OptionNames

def GivenOptions.required (given : GivenOptions) (name : String) : Except Detour String :=
  match given.lookup name with
  | some value => .ok value
  | none => .error .misuse

namespace Command

def runNames : OptionNames where
  paths := ["package", "results", "output", "config"]
  texts := ["stage"]
  flags := ["parallel"]

def scoreNames : OptionNames where
  paths := ["package", "results", "config"]
  texts := ["item"]

def validateNames : OptionNames where
  paths := ["package"]

def ofRunOptions (given : GivenOptions) : Except Detour Command := do
  let options : RunOptions := {
    package := ← given.required "package"
    results := ← given.required "results"
    parallel := (given.lookup "parallel").isSome
    config := given.lookup "config" }
  return .run {
    options with
    stage := (given.lookup "stage").getD options.stage
    output := (given.lookup "output").getD options.output }

def ofScoreOptions (given : GivenOptions) : Except Detour Command := do
  return .score {
    package := ← given.required "package"
    results := ← given.required "results"
    item := ← given.required "item"
    config := given.lookup "config" }

/-- What follows a request for help: nothing, or one command to be helped with. -/
def helpTopic : List String → Detour
  | [] => .help
  | [topic] => if ["run", "score", "validate", "help"].contains topic then .help else .misuse
  | _ => .misuse

def ofArguments : List String → Except Detour Command
  | [] => .error .misuse
  | "run" :: rest => do ofRunOptions (← runNames.read [] rest)
  | "score" :: rest => do ofScoreOptions (← scoreNames.read [] rest)
  | "validate" :: rest => do
    return .validate (← (← validateNames.read [] rest).required "package")
  | "help" :: rest => .error (helpTopic rest)
  | argument :: _ =>
    if argument = "--help" || argument.startsWith "-h" then .error .help
    else if argument = "--version" || argument.startsWith "-V" then .error .version
    else .error .misuse

end Command

end Rubric
