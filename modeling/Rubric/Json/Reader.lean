import Rubric.Json.Number
import Rubric.Text.Hex

namespace Rubric.Json

/-- The characters that may stand between the parts of a value. -/
def isSpace (c : Char) : Bool :=
  c == ' ' || c == '\n' || c == '\t' || c == '\r'

def skipSpace (cs : List Char) : List Char :=
  cs.dropWhile isSpace

/-- The character that a letter stands for after a backslash. -/
def escaped? : Char → Option Char
  | '"' => some '"'
  | '\\' => some '\\'
  | '/' => some '/'
  | 'b' => some '\x08'
  | 'f' => some '\x0c'
  | 'n' => some '\n'
  | 'r' => some '\r'
  | 't' => some '\t'
  | _ => none

/-- Reads a text up to its closing quote as code points, in which a character may still be written
as two surrogates. -/
def readUnits : List Char → Option (List Nat × List Char)
  | [] => none
  | '"' :: cs => some ([], cs)
  | '\\' :: 'u' :: a :: b :: c :: d :: cs => do
    let unit ← Text.hexValue? [a, b, c, d]
    let (units, rest) ← readUnits cs
    return (unit :: units, rest)
  | '\\' :: c :: cs => do
    let c ← escaped? c
    let (units, rest) ← readUnits cs
    return (c.toNat :: units, rest)
  | c :: cs =>
    if c.toNat < 0x20 || c == '\\' then none
    else do
      let (units, rest) ← readUnits cs
      return (c.toNat :: units, rest)

def isHigh (u : Nat) : Bool :=
  0xD800 ≤ u && u ≤ 0xDBFF

def isLow (u : Nat) : Bool :=
  0xDC00 ≤ u && u ≤ 0xDFFF

/-- The characters of code points, surrogate pairs joined; half a pair has none. -/
def joinUnits : List Nat → Option (List Char)
  | [] => some []
  | u :: us =>
    if isLow u then none
    else if isHigh u then
      match us with
      | [] => none
      | v :: vs =>
        if isLow v then
          (Char.ofNat (0x10000 + (u - 0xD800) * 0x400 + (v - 0xDC00)) :: ·) <$> joinUnits vs
        else none
    else (Char.ofNat u :: ·) <$> joinUnits us

/-- Reads a text after its opening quote; its content is missing when it holds half a surrogate
pair. -/
def readText (cs : List Char) : Option (Option String × List Char) := do
  let (units, rest) ← readUnits cs
  return ((joinUnits units).map String.ofList, rest)

/-- A value found where `levels` more levels of nesting are allowed. -/
def nested (levels : Nat) (j : Json) : Json :=
  if levels = 0 then .unusable else j

/-- An object of members whose keys may be missing. -/
def ofMembers (members : List (Option String × Json)) : Json :=
  match members.mapM fun m => m.1.map fun key => (key, m.2) with
  | some members => .object members
  | none => .unusable

mutual

/-- Reads a value from the start of a text. The first argument bounds the steps taken, the second
is the number of levels that may still be nested. -/
def readValue : Nat → Nat → List Char → Option (Json × List Char)
  | 0, _, _ => none
  | steps + 1, levels, cs =>
    match skipSpace cs with
    | 'n' :: 'u' :: 'l' :: 'l' :: rest => some (.null, rest)
    | 't' :: 'r' :: 'u' :: 'e' :: rest => some (.boolean true, rest)
    | 'f' :: 'a' :: 'l' :: 's' :: 'e' :: rest => some (.boolean false, rest)
    | '"' :: rest => do
      let (text, rest) ← readText rest
      return (text.elim .unusable .string, rest)
    | '[' :: rest =>
      match skipSpace rest with
      | ']' :: rest => some (nested levels (.array []), rest)
      | rest => do
        let (elements, rest) ← readElements steps (levels - 1) rest
        return (nested levels (.array elements), rest)
    | '{' :: rest =>
      match skipSpace rest with
      | '}' :: rest => some (nested levels (.object []), rest)
      | rest => do
        let (members, rest) ← readMembers steps (levels - 1) rest
        return (nested levels (ofMembers members), rest)
    | rest => do
      let (text, rest) ← takeNumber rest
      return (text.value?.elim .unusable .number, rest)

def readElements : Nat → Nat → List Char → Option (List Json × List Char)
  | 0, _, _ => none
  | steps + 1, levels, cs => do
    let (element, rest) ← readValue steps levels cs
    match skipSpace rest with
    | ']' :: rest => return ([element], rest)
    | ',' :: rest =>
      let (elements, rest) ← readElements steps levels rest
      return (element :: elements, rest)
    | _ => none

def readMembers : Nat → Nat → List Char → Option (List (Option String × Json) × List Char)
  | 0, _, _ => none
  | steps + 1, levels, cs =>
    match skipSpace cs with
    | '"' :: rest => do
      let (key, rest) ← readText rest
      match skipSpace rest with
      | ':' :: rest =>
        let (value, rest) ← readValue steps levels rest
        match skipSpace rest with
        | '}' :: rest => return ([(key, value)], rest)
        | ',' :: rest =>
          let (members, rest) ← readMembers steps levels rest
          return ((key, value) :: members, rest)
        | _ => none
      | _ => none
    | _ => none

end

def maxLevels : Nat := 127

/-- Reads a text that is one JSON value with spaces around it: without a byte order mark, comments,
or commas at the end of a list. -/
def ofText? (s : String) : Option Json := do
  let cs := s.toList
  let (j, rest) ← readValue (2 * cs.length + 2) maxLevels cs
  if (skipSpace rest).isEmpty then return j else none

end Rubric.Json
