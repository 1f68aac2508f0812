import Rubric.Arguments

namespace Rubric.Program

variable {m : Type → Type} [Monad m] [Host m]

def versionText : String := "qtiscore 0.1.0"

def usageText : String :=
  "Usage: qtiscore <COMMAND>\n\n" ++
  "Commands:\n" ++
  "  run --package <PACKAGE> --results <RESULTS> [--stage <STAGE>] [--parallel]\n" ++
  "      [--output <OUTPUT>] [--config <CONFIG>]\n" ++
  "  score --package <PACKAGE> --results <RESULTS> --item <ITEM> [--config <CONFIG>]\n" ++
  "  validate --package <PACKAGE>\n" ++
  "  help\n\n" ++
  "Options:\n" ++
  "  -h, --help     Print help\n" ++
  "  -V, --version  Print version"

def runCommand (c : Command) : m UInt32 := do
  match ← (c.execute : ExceptT Failure m Unit).run with
  | .ok () => return 0
  | .error failure =>
    Host.remark s!"Error: {failure.message}"
    return 1

/-- Runs the program and tells its exit code: 0 when all went well, 1 after a failure, and 2 when
the arguments are not understood. -/
def run (arguments : List String) : m UInt32 := do
  match Command.ofArguments arguments with
  | .ok c => runCommand c
  | .error .version =>
    Host.print versionText
    return 0
  | .error .help =>
    Host.print usageText
    return 0
  | .error .misuse =>
    Host.remark usageText
    return 2

end Rubric.Program
