import Rubric.Program
import Std.Time.DateTime.Timestamp

namespace Rubric.System

def fileError : IO.Error → FileError
  | .noFileOrDirectory .. => .missing
  | .alreadyExists .. => .occupied
  | .inappropriateType _ 20 _ => .notDirectory
  | .inappropriateType _ 21 _ => .isDirectory
  | e => .other (toString e)

def attempt {α : Type} (x : IO α) : IO (Except FileError α) := do
  try
    return .ok (← x)
  catch e =>
    return .error (fileError e)

def kindAt (path : String) : IO (Option EntryKind) := do
  try
    let data ← (← IO.FS.realPath path).metadata
    return some (if data.type == .dir then .directory else .file)
  catch _ =>
    return none

def namesAt (path : String) : IO (List String) := do
  let entries ← (← IO.FS.realPath path).readDir
  return entries.toList.map fun e => e.fileName

def timeOfDay : IO Timestamp := do
  let nanos := (← Std.Time.Timestamp.now).toNanosecondsSinceUnixEpoch.val
  return { seconds := nanos / 1000000000, nanos := (nanos % 1000000000).toNat }

/-- The number that bytes spell, most significant first. -/
def numberOf (bytes : ByteArray) : Nat :=
  bytes.toList.foldl (fun n b => 256 * n + b.toNat) 0

def showDiagnostic (d : Diagnostic) : IO Unit := do
  let indent := String.ofList (List.replicate (5 - d.severity.level.length) ' ')
  IO.eprintln s!"{(← timeOfDay).text} {indent}{d.line}"

instance : Host IO where
  kind? := kindAt
  read path := attempt (IO.FS.readBinFile path)
  list path := attempt (namesAt path)
  makeDirectories path := attempt (if path.isEmpty then pure () else IO.FS.createDirAll path)
  write path text := attempt (IO.FS.writeFile path text)
  environment? name := IO.getEnv name
  print text := IO.println text
  remark text := IO.eprintln text
  record event := event.diagnostic?.forM showDiagnostic
  clock := IO.monoMsNow
  now := timeOfDay
  freshId := do return .ofRandom (BitVec.ofNat 128 (numberOf (← IO.getRandomBytes 16)))

end Rubric.System

def main (arguments : List String) : IO UInt32 :=
  Rubric.Program.run arguments
