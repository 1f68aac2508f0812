import Rubric.Toml.Number
import Rubric.Toml.Table
import Rubric.Toml.Text

namespace Rubric.Toml

/-- The characters left when blanks, line breaks and comments are dropped. -/
def skipLines : Nat → List Char → List Char
  | 0, cs => cs
  | steps + 1, cs =>
    let rest := skipComment (skipSpace cs)
    match takeNewline rest with
    | some rest => skipLines steps rest
    | none => rest

/-- The blank characters left out between the elements of an array. -/
def skipFiller (cs : List Char) : List Char :=
  skipLines cs.length cs

mutual

/-- Takes a value. The first argument bounds the steps taken, the second is the number of levels
that may still be nested. -/
def takeValue : Nat → Nat → List Char → Option (Toml × List Char)
  | 0, _, _ => none
  | steps + 1, levels, cs =>
    match cs with
    | 't' :: 'r' :: 'u' :: 'e' :: rest => some (.boolean true, rest)
    | 'f' :: 'a' :: 'l' :: 's' :: 'e' :: rest => some (.boolean false, rest)
    | '[' :: rest =>
      match levels with
      | 0 => none
      | levels + 1 => do
        let (elements, rest) ← takeElements steps levels rest
        return (.array elements, rest)
    | '\x7b' :: rest =>
      match levels with
      | 0 => none
      | levels + 1 =>
        match skipSpace rest with
        | '\x7d' :: rest => some (.table [], rest)
        | rest => do
          let (entries, rest) ← takeEntries steps levels [] rest
          return (.table (tomlEntries entries), rest)
    | cs =>
      if cs.head?.any fun c => c == '"' || c == '\'' then
        (takeQuoted cs).map fun r => (.string r.1, r.2)
      else (takeMoment cs).or (takeNumber cs)

/-- Takes the elements of an array and its closing bracket. A comma may follow the last one. -/
def takeElements : Nat → Nat → List Char → Option (List Toml × List Char)
  | 0, _, _ => none
  | steps + 1, levels, cs =>
    match skipFiller cs with
    | ']' :: rest => some ([], rest)
    | rest => do
      let (element, rest) ← takeValue steps levels rest
      match skipFiller rest with
      | ']' :: rest => return ([element], rest)
      | ',' :: rest =>
        let (elements, rest) ← takeElements steps levels rest
        return (element :: elements, rest)
      | _ => none

/-- Takes the assignments of a table on one line and its closing brace. -/
def takeEntries : Nat → Nat → Entries → List Char → Option (Entries × List Char)
  | 0, _, _, _ => none
  | steps + 1, levels, entries, cs => do
    let (key, cs) ← takeKey cs
    let (value, cs) ← takeValue steps levels (skipSpace (← takeMark '=' cs))
    let entries ← entries.assign value key
    match skipSpace cs with
    | '\x7d' :: cs => return (entries, cs)
    | ',' :: cs => takeEntries steps levels entries cs
    | _ => none

end

def takeWholeValue (cs : List Char) : Option (Toml × List Char) :=
  takeValue (2 * cs.length + 2) maxDepth cs

/-- A document under construction: its root table, and the path of the header last read. -/
structure Draft where
  root : Entries := []
  path : List String := []

namespace Draft

def assign (d : Draft) (key : List String) (value : Toml) : Option Draft := do
  return { d with root := ← d.root.under (Entries.assign value key) d.path }

def header (d : Draft) (enter : String → Entries → Option Entries) (path : List String) :
    Option Draft := do
  let key ← path.getLast?
  return { root := ← d.root.under (enter key) path.dropLast, path }

end Draft

/-- Takes a line: an assignment, a header, or nothing. -/
def takeLine (d : Draft) (cs : List Char) : Option (Draft × List Char) :=
  match skipSpace cs with
  | [] => some (d, [])
  | '#' :: rest => (takeLineEnd ('#' :: rest)).map fun rest => (d, rest)
  | '\n' :: rest => some (d, rest)
  | '\r' :: rest => (takeNewline ('\r' :: rest)).map fun rest => (d, rest)
  | '[' :: '[' :: rest => do
    let (path, rest) ← takeKey rest
    let rest ← takeLineEnd (← takeMark ']' (← takeMark ']' rest))
    return (← d.header Entries.openNext path, rest)
  | '[' :: rest => do
    let (path, rest) ← takeKey rest
    let rest ← takeLineEnd (← takeMark ']' rest)
    return (← d.header Entries.openTable path, rest)
  | rest => do
    let (key, rest) ← takeKey rest
    let (value, rest) ← takeWholeValue (skipSpace (← takeMark '=' rest))
    return (← d.assign key value, ← takeLineEnd rest)

def takeLines : Nat → Draft → List Char → Option Draft
  | _, d, [] => some d
  | 0, _, _ => none
  | steps + 1, d, cs => do
    let (d, rest) ← takeLine d cs
    takeLines steps d rest

/-- Reads a document, which may start with a byte order mark. -/
def ofText? (s : String) : Option Toml := do
  let cs := match s.toList with
    | '\ufeff' :: cs => cs
    | cs => cs
  let d ← takeLines cs.length {} cs
  return .table (tomlEntries d.root)

end Rubric.Toml
