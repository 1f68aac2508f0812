import Rubric.Failure
import Rubric.Log
import Rubric.Timestamp
import Rubric.Uuid

namespace Rubric

inductive EntryKind where
  | file | directory
deriving DecidableEq, Repr

/-- The operations of a host. Paths are texts with slashes between their parts. -/
class Host (m : Type → Type) where
  /-- What stands under a path, if anything does. -/
  kind? : String → m (Option EntryKind)
  /-- The content of a file. -/
  read : String → m (Except FileError ByteArray)
  /-- The names of what a directory holds, in any order. -/
  list : String → m (Except FileError (List String))
  /-- Makes a directory and those it lies in, as far as they are missing. -/
  makeDirectories : String → m (Except FileError Unit)
  /-- Puts a text into a file, which is created or emptied first. -/
  write : String → String → m (Except FileError Unit)
  /-- The value of an environment variable. -/
  environment? : String → m (Option String)
  /-- Writes a line to the standard output. -/
  print : String → m Unit
  /-- Writes a line to the standard error output. -/
  remark : String → m Unit
  /-- Puts an event on record. -/
  record : Event → m Unit
  /-- Milliseconds passed since some moment. -/
  clock : m Nat
  /-- The time of day. -/
  now : m Timestamp
  /-- An identifier that nothing else has. -/
  freshId : m Uuid

variable {m : Type → Type} [Monad m] {α : Type}

/-- A host stays one for programs that may fail. -/
instance {ε : Type} [Host m] : Host (ExceptT ε m) where
  kind? path := ExceptT.lift (Host.kind? path)
  read path := ExceptT.lift (Host.read path)
  list path := ExceptT.lift (Host.list path)
  makeDirectories path := ExceptT.lift (Host.makeDirectories path)
  write path text := ExceptT.lift (Host.write path text)
  environment? name := ExceptT.lift (Host.environment? name)
  print text := ExceptT.lift (Host.print text)
  remark text := ExceptT.lift (Host.remark text)
  record event := ExceptT.lift (Host.record event)
  clock := ExceptT.lift Host.clock
  now := ExceptT.lift Host.now
  freshId := ExceptT.lift Host.freshId

/-- A computation as a part of an attempt, which its failures mention. -/
def attempting (attempt : Attempt) (x : ExceptT Failure m α) : ExceptT Failure m α :=
  ExceptT.adapt (Failure.within attempt) x

def ofFileResult (x : m (Except FileError α)) : ExceptT Failure m α := do
  match ← x with
  | .ok a => return a
  | .error e => throw { cause := .file e }

def pathExists [Host m] (path : String) : m Bool := do
  return (← Host.kind? path).isSome

def readText [Host m] (path : String) : ExceptT Failure m String := do
  match String.fromUTF8? (← ofFileResult (Host.read path)) with
  | some text => return text
  | none => throw { cause := .file .notText }

end Rubric
