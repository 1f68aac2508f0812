import Rubric.Report
import Rubric.Settings

namespace Rubric

namespace Storage

variable {m : Type → Type} [Monad m] [Host m] {α : Type}

def parseText (ofJson? : Json → Option α) (text : String) : ExceptT Failure m α :=
  match (Json.ofText? text).bind ofJson? with
  | some a => pure a
  | none => throw { cause := .malformedJson }

def loadDocument (reading parsing : Attempt) (ofJson? : Json → Option α) (path : String) :
    ExceptT Failure m α := do
  let text ← attempting reading (readText path)
  attempting parsing (parseText ofJson? text)

/-- Whether a file name ends in `.json` after something else. -/
def isItemFile (name : String) : Bool :=
  match Text.cutLast '.' name with
  | some (stem, extension) => !stem.isEmpty && extension == "json"
  | none => false

def loadItem (path : String) : ExceptT Failure m Item :=
  loadDocument (.readItem path) (.parseItem path) Item.ofJson? path

/-- Loads the items in a directory, in the order of the names of their files. -/
def loadItems (directory : String) : ExceptT Failure m (List Item) := do
  if (← Host.kind? directory) = some .directory then
    let names ← attempting (.listItems directory) (ofFileResult (Host.list directory))
    let names := (names.filter isItemFile).mergeSort fun a b => decide (a ≤ b)
    names.mapM fun name => loadItem (joinPath directory name)
  else return []

def loadTest (path : String) : ExceptT Failure m (Option Test) := do
  if ← pathExists path then
    some <$> loadDocument (.readTest path) (.parseTest path) Test.ofJson? path
  else return none

def loadPackageDirectory (directory : String) : ExceptT Failure m Package := do
  let test ← loadTest (joinPath directory "test.json")
  let items ← loadItems (joinPath directory "items")
  Host.record (.packageLoaded directory items.length test.isSome)
  return { test, items }

def loadPackage (path : String) : ExceptT Failure m Package := do
  if (← Host.kind? path) = some .directory then loadPackageDirectory path
  else loadDocument (.readPackage path) (.parsePackage path) Package.ofJson? path

def loadResults (path : String) : ExceptT Failure m (List AssessmentResult) :=
  loadDocument (.readResults path) (.parseResults path) (Json.list? AssessmentResult.ofJson?) path

/-- A path, last character first, without the slashes and lone dots that it ends with. -/
def bareReversed : List Char → List Char
  | '/' :: cs => bareReversed cs
  | '.' :: '/' :: cs => bareReversed cs
  | cs => cs

/-- The directory that a path lies in; none for the empty path. -/
def directoryOf? (path : String) : Option String :=
  if path.isEmpty then none
  else
    let bare := String.ofList (bareReversed path.toList.reverse).reverse
    some (((Text.cutLast '/' bare).map Prod.fst).getD "")

/-- Writes a JSON document to a file, whose directory is made when missing. -/
def saveDocument (writing : Attempt) (path : String) (j : Json) : ExceptT Failure m Unit := do
  match directoryOf? path with
  | some directory => ofFileResult (Host.makeDirectories directory)
  | none => pure ()
  attempting writing (ofFileResult (Host.write path j.pretty))

def saveResults (path : String) (results : List AssessmentResult) : ExceptT Failure m Unit :=
  saveDocument (.writeResults path) path (.array (results.map AssessmentResult.toJson))

def saveReport (path : String) (report : Report) : ExceptT Failure m Unit :=
  saveDocument (.writeReport path) path report.toJson

def loadReport (path : String) : ExceptT Failure m Report :=
  loadDocument (.readReport path) .parseReport Report.ofJson? path

end Storage

end Rubric
