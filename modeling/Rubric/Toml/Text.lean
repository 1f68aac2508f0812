import Rubric.Text.Hex

namespace Rubric.Toml

def isSpace (c : Char) : Bool :=
  c == ' ' || c == '\t'

def skipSpace (cs : List Char) : List Char :=
  cs.dropWhile isSpace

def takeNewline : List Char → Option (List Char)
  | '\n' :: cs => some cs
  | '\r' :: '\n' :: cs => some cs
  | _ => none

/-- A character that may stand in a line: of the control characters only the tab. -/
def isLineChar (c : Char) : Bool :=
  c == '\t' || (0x20 ≤ c.toNat && c.toNat != 0x7F)

def skipComment : List Char → List Char
  | '#' :: cs => cs.dropWhile isLineChar
  | cs => cs

/-- Takes the rest of a line that has nothing more to say. -/
def takeLineEnd (cs : List Char) : Option (List Char) :=
  match skipComment (skipSpace cs) with
  | [] => some []
  | rest => takeNewline rest

/-- A character that stands for itself in a text quoted by `mark`. -/
def isPlain (mark c : Char) : Bool :=
  isLineChar c && c != mark

/-- The character of a code point, if it is one. -/
def scalar? (n : Nat) : Option Char :=
  if n.isValidChar then some (Char.ofNat n) else none

/-- The character that a letter stands for after a backslash. -/
def escaped? : Char → Option Char
  | 'b' => some '\x08'
  | 't' => some '\t'
  | 'n' => some '\n'
  | 'f' => some '\x0c'
  | 'r' => some '\r'
  | '"' => some '"'
  | '\\' => some '\\'
  | _ => none

def scalarOfHex? (digits : List Char) : Option Char := do
  scalar? (← Text.hexValue? digits)

def before (c : Char) (r : List Char × List Char) : List Char × List Char :=
  (c :: r.1, r.2)

/-- Reads a text with escapes up to its closing quote. -/
def readBasic : List Char → Option (List Char × List Char)
  | [] => none
  | '"' :: cs => some ([], cs)
  | '\\' :: 'u' :: a :: b :: c :: d :: cs => do
    return before (← scalarOfHex? [a, b, c, d]) (← readBasic cs)
  | '\\' :: 'U' :: a :: b :: c :: d :: e :: f :: g :: h :: cs => do
    return before (← scalarOfHex? [a, b, c, d, e, f, g, h]) (← readBasic cs)
  | '\\' :: c :: cs => do return before (← escaped? c) (← readBasic cs)
  | c :: cs => if isPlain '"' c && c != '\\' then before c <$> readBasic cs else none

def readLiteral : List Char → Option (List Char × List Char)
  | [] => none
  | c :: cs =>
    if c = '\'' then some ([], cs)
    else if isPlain '\'' c then before c <$> readLiteral cs
    else none

/-- What follows three quotes that end a text of several lines: up to two more quotes belong to
the text. -/
def closing (mark : Char) (cs : List Char) : List Char × List Char :=
  let quotes := (cs.take 2).takeWhile (· == mark)
  (quotes, cs.drop quotes.length)

/-- Whether only blanks follow on a line. -/
def lineIsOver (cs : List Char) : Bool :=
  (takeNewline (skipSpace cs)).isSome

/-- Reads a text of several lines with escapes. A backslash at the end of a line joins it to the
next text; while that is looked for, `joining` holds. -/
def readLongBasic (joining : Bool) : List Char → Option (List Char × List Char)
  | [] => none
  | '"' :: '"' :: '"' :: cs => some (closing '"' cs)
  | '\r' :: '\n' :: cs =>
    if joining then readLongBasic true cs else before '\n' <$> readLongBasic false cs
  | '\\' :: 'u' :: a :: b :: c :: d :: cs => do
    return before (← scalarOfHex? [a, b, c, d]) (← readLongBasic false cs)
  | '\\' :: 'U' :: a :: b :: c :: d :: e :: f :: g :: h :: cs => do
    return before (← scalarOfHex? [a, b, c, d, e, f, g, h]) (← readLongBasic false cs)
  | '\\' :: c :: cs =>
    if lineIsOver (c :: cs) then readLongBasic true (c :: cs)
    else do return before (← escaped? c) (← readLongBasic false cs)
  | c :: cs =>
    if joining && (isSpace c || c == '\n') then readLongBasic true cs
    else if c == '\n' || c == '"' || (isPlain '"' c && c != '\\') then
      before c <$> readLongBasic false cs
    else none

def readLongLiteral : List Char → Option (List Char × List Char)
  | [] => none
  | '\'' :: '\'' :: '\'' :: cs => some (closing '\'' cs)
  | '\r' :: '\n' :: cs => before '\n' <$> readLongLiteral cs
  | c :: cs =>
    if c == '\n' || c == '\'' || isPlain '\'' c then before c <$> readLongLiteral cs else none

/-- The characters after a line break at the start, which does not belong to a text. -/
def skipNewline (cs : List Char) : List Char :=
  (takeNewline cs).getD cs

def takeQuoted : List Char → Option (String × List Char)
  | '"' :: '"' :: '"' :: cs => (readLongBasic false (skipNewline cs)).map fun r =>
    (String.ofList r.1, r.2)
  | '\'' :: '\'' :: '\'' :: cs => (readLongLiteral (skipNewline cs)).map fun r =>
    (String.ofList r.1, r.2)
  | '"' :: cs => (readBasic cs).map fun r => (String.ofList r.1, r.2)
  | '\'' :: cs => (readLiteral cs).map fun r => (String.ofList r.1, r.2)
  | _ => none

def isBare (c : Char) : Bool :=
  c.isAlphanum || c == '-' || c == '_'

/-- Takes one part of a key: a quoted text of one line, or bare characters. -/
def takePart : List Char → Option (String × List Char)
  | '"' :: cs => (readBasic cs).map fun r => (String.ofList r.1, r.2)
  | '\'' :: cs => (readLiteral cs).map fun r => (String.ofList r.1, r.2)
  | cs =>
    let bare := cs.takeWhile isBare
    if bare.isEmpty then none else some (String.ofList bare, cs.drop bare.length)

/-- How many parts a key may have, and how deep values may be nested. -/
def maxDepth : Nat := 79

/-- Takes at most `parts` parts of a key with dots between them. -/
def takeParts : Nat → List Char → Option (List String × List Char)
  | 0, _ => none
  | parts + 1, cs => do
    let (part, cs) ← takePart (skipSpace cs)
    match skipSpace cs with
    | '.' :: cs => do
      let (more, cs) ← takeParts parts cs
      return (part :: more, cs)
    | cs => return ([part], cs)

def takeKey (cs : List Char) : Option (List String × List Char) :=
  takeParts maxDepth cs

end Rubric.Toml
