import Rubric.FileTree

namespace Rubric

/-- A line that a program wrote, or an event that it put on record. -/
inductive Line where
  | output (text : String)
  | remark (text : String)
  | event (e : Event)

structure Session where
  files : FileTree := {}
  environment : List (String × String) := []
  transcript : List Line := []
  time : Timestamp := ⟨0, 0⟩
  id : Uuid := ⟨0⟩

namespace Session

def add (s : Session) (line : Line) : Session :=
  { s with transcript := s.transcript ++ [line] }

/-- The outcome of an operation that may change the files. -/
def changing (f : FileTree → Except FileError FileTree) : StateM Session (Except FileError Unit) :=
  fun s =>
    match f s.files with
    | .ok files => (.ok (), { s with files })
    | .error e => (.error e, s)

instance : Host (StateM Session) where
  kind? path := do return (← get).files.kind? path
  read path := do return (← get).files.read path
  list path := do return (← get).files.list path
  makeDirectories path := changing fun t => t.makeDirectories path
  write path text := changing fun t => t.write path text.toUTF8
  environment? name := do return (← get).environment.lookup name
  print text := modify fun s => s.add (.output text)
  remark text := modify fun s => s.add (.remark text)
  record e := modify fun s => s.add (.event e)
  clock := pure 0
  now := do return (← get).time
  freshId := do return (← get).id

def events (s : Session) : Log :=
  s.transcript.filterMap fun
    | .event e => some e
    | _ => none

def output (s : Session) : String :=
  String.join <| s.transcript.map fun
    | .output text => text ++ "\n"
    | _ => ""

/-- The texts on the standard error output, with the diagnostics among them if these are shown. -/
def remarks (s : Session) (showsLog : Bool) : List String :=
  s.transcript.filterMap fun
    | .output _ => none
    | .remark text => some text
    | .event e => if showsLog then e.diagnostic?.map Diagnostic.line else none

end Session

end Rubric
