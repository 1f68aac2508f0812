import Rubric.Json.Number
import Rubric.Text.Hex

namespace Rubric.Json

/-- A character as it stands in a quoted text: quotes, backslashes and control characters are
escaped, all others stand for themselves. -/
def escapeChar (c : Char) : List Char :=
  if c = '"' then ['\\', '"']
  else if c = '\\' then ['\\', '\\']
  else if c = '\x08' then ['\\', 'b']
  else if c = '\t' then ['\\', 't']
  else if c = '\n' then ['\\', 'n']
  else if c = '\x0c' then ['\\', 'f']
  else if c = '\r' then ['\\', 'r']
  else if c.toNat < 0x20 then
    ['\\', 'u', '0', '0', Text.hexChar (c.toNat / 16), Text.hexChar (c.toNat % 16)]
  else [c]

def quote (s : String) : List Char :=
  '"' :: (s.toList.flatMap escapeChar ++ ['"'])

mutual

def compactChars : Json → List Char
  | .null | .unusable => "null".toList
  | .boolean true => "true".toList
  | .boolean false => "false".toList
  | .number n => numberText n
  | .string s => quote s
  | .array elements => '[' :: (compactElements elements ++ [']'])
  | .object members => '{' :: (compactMembers members ++ ['}'])

def compactElements : List Json → List Char
  | [] => []
  | [j] => j.compactChars
  | j :: rest => j.compactChars ++ ',' :: compactElements rest

def compactMembers : List (String × Json) → List Char
  | [] => []
  | [(key, j)] => quote key ++ ':' :: j.compactChars
  | (key, j) :: rest => quote key ++ ':' :: (j.compactChars ++ ',' :: compactMembers rest)

end

/-- A value on one line. -/
def compact (j : Json) : String :=
  String.ofList j.compactChars

def newline (level : Nat) : List Char :=
  '\n' :: List.replicate (2 * level) ' '

mutual

def prettyChars (level : Nat) : Json → List Char
  | .array [] => ['[', ']']
  | .array (j :: rest) =>
    '[' :: (newline (level + 1) ++ prettyElements (level + 1) (j :: rest) ++ newline level ++ [']'])
  | .object [] => ['{', '}']
  | .object (m :: rest) =>
    '{' :: (newline (level + 1) ++ prettyMembers (level + 1) (m :: rest) ++ newline level ++ ['}'])
  | .null | .unusable => "null".toList
  | .boolean true => "true".toList
  | .boolean false => "false".toList
  | .number n => numberText n
  | .string s => quote s

def prettyElements (level : Nat) : List Json → List Char
  | [] => []
  | [j] => j.prettyChars level
  | j :: rest => j.prettyChars level ++ ',' :: (newline level ++ prettyElements level rest)

def prettyMembers (level : Nat) : List (String × Json) → List Char
  | [] => []
  | [(key, j)] => quote key ++ ':' :: ' ' :: j.prettyChars level
  | (key, j) :: rest =>
    quote key ++ ':' :: ' ' ::
      (j.prettyChars level ++ ',' :: (newline level ++ prettyMembers level rest))

end

/-- A value with each element and member on a line of its own, indented by two spaces a level. -/
def pretty (j : Json) : String :=
  String.ofList (j.prettyChars 0)

end Rubric.Json
