import Rubric.Decimal.Numeral
import Rubric.Text.Hex
import Rubric.Timestamp
import Rubric.Toml.Basic

namespace Rubric.Toml

/-- Takes the digits after a first one, each with at most one underscore before it. -/
def takeMoreDigits (isDigit : Char → Bool) : List Char → List Char × List Char
  | '_' :: d :: cs =>
    if isDigit d then
      let (ds, rest) := takeMoreDigits isDigit cs
      (d :: ds, rest)
    else ([], '_' :: d :: cs)
  | d :: cs =>
    if isDigit d then
      let (ds, rest) := takeMoreDigits isDigit cs
      (d :: ds, rest)
    else ([], d :: cs)
  | [] => ([], [])

def takeDigits (isDigit : Char → Bool) : List Char → Option (List Char × List Char)
  | d :: cs =>
    if isDigit d then
      let (ds, rest) := takeMoreDigits isDigit cs
      some (d :: ds, rest)
    else none
  | [] => none

def takeWhole : List Char → Option (List Char × List Char)
  | '0' :: cs => some (['0'], cs)
  | cs => takeDigits Char.isDigit cs

def takeFraction : List Char → Option (List Char × List Char)
  | '.' :: cs => takeDigits Char.isDigit cs
  | cs => some ([], cs)

def takeExponent : List Char → Option (Option Int × List Char)
  | c :: cs =>
    if c = 'e' ∨ c = 'E' then do
      let (negative, cs) := Decimal.takeSign cs
      let (ds, cs) ← takeDigits Char.isDigit cs
      let power := Decimal.digitsValue ds
      return (some (if negative then -(power : Int) else power), cs)
    else some (none, c :: cs)
  | [] => some (none, [])

def integer? (n : Int) : Option Toml :=
  if -(Nat.pow 2 63 : Int) ≤ n && n < Nat.pow 2 63 then some (.integer n) else none

def float? (negative : Bool) (digits : List Char) (exponent : Int) : Option Toml :=
  let n : Decimal.Numeral := { negative, digits := Decimal.digitsValue digits, exponent }
  if n.toFloat == 1.0 / 0.0 then none else some (.float n.toFloat)

def takeDecimal (negative : Bool) (cs : List Char) : Option (Toml × List Char) := do
  let (whole, cs) ← takeWhole cs
  let (places, cs) ← takeFraction cs
  let (power, cs) ← takeExponent cs
  if places.isEmpty && power.isNone then
    let n : Int := Decimal.digitsValue whole
    return (← integer? (if negative then -n else n), cs)
  else return (← float? negative (whole ++ places) (power.getD 0 - places.length), cs)

/-- Takes an integer in a base of digits that `isDigit` admits. -/
def takeInBase (base : Nat) (isDigit : Char → Bool) (cs : List Char) :
    Option (Toml × List Char) := do
  let (ds, cs) ← takeDigits isDigit cs
  let values ← ds.mapM Text.hexDigit?
  return (← integer? (values.foldl (fun n d => base * n + d) 0 : Nat), cs)

def takeNumber : List Char → Option (Toml × List Char)
  | '0' :: 'x' :: cs => takeInBase 16 (fun c => (Text.hexDigit? c).isSome) cs
  | '0' :: 'o' :: cs => takeInBase 8 (fun c => '0' ≤ c && c ≤ '7') cs
  | '0' :: 'b' :: cs => takeInBase 2 (fun c => c == '0' || c == '1') cs
  | cs =>
    let (negative, cs) := Decimal.takeSign cs
    match cs with
    | 'i' :: 'n' :: 'f' :: cs => some (.float (if negative then -(1.0 / 0.0) else 1.0 / 0.0), cs)
    | 'n' :: 'a' :: 'n' :: cs => some (.float (0.0 / 0.0), cs)
    | cs => takeDecimal negative cs

/-- Takes exactly `width` digits whose number lies in a range. -/
def takeFixed (width least greatest : Nat) (cs : List Char) : Option (Nat × List Char) :=
  let ds := (cs.take width).takeWhile Char.isDigit
  let n := Decimal.digitsValue ds
  if ds.length = width && least ≤ n && n ≤ greatest then some (n, cs.drop width) else none

def takeMark (mark : Char) : List Char → Option (List Char)
  | c :: cs => if c = mark then some cs else none
  | [] => none

def takeDay (cs : List Char) : Option (List Char) := do
  let (year, cs) ← takeFixed 4 0 9999 cs
  let (month, cs) ← takeFixed 2 1 12 (← takeMark '-' cs)
  let (day, cs) ← takeFixed 2 1 31 (← takeMark '-' cs)
  if day ≤ Date.daysIn year month then return cs else none

def skipPlaces : List Char → List Char
  | '.' :: cs =>
    let (ds, rest) := Decimal.takeDigits cs
    if ds.isEmpty then '.' :: cs else rest
  | cs => cs

def takeClock (cs : List Char) : Option (List Char) := do
  let (_, cs) ← takeFixed 2 0 23 cs
  let (_, cs) ← takeFixed 2 0 59 (← takeMark ':' cs)
  let (_, cs) ← takeFixed 2 0 60 (← takeMark ':' cs)
  return skipPlaces cs

def takeOffset (cs : List Char) : Option (List Char) := do
  let (_, cs) ← takeFixed 2 0 23 cs
  let (_, cs) ← takeFixed 2 0 59 (← takeMark ':' cs)
  return cs

/-- The characters after an offset from universal time, if there is one. -/
def skipOffset : List Char → List Char
  | [] => []
  | c :: cs =>
    if c = 'Z' ∨ c = 'z' then cs
    else if c = '+' ∨ c = '-' then (takeOffset cs).getD (c :: cs)
    else c :: cs

/-- Takes a day with a time and an offset, each if there is one, or a time alone. -/
def takeMoment (cs : List Char) : Option (Toml × List Char) := do
  let rest ←
    match takeDay cs with
    | none => takeClock cs
    | some (c :: rest) =>
      if c = 'T' ∨ c = 't' ∨ c = ' ' then
        pure (((takeClock rest).map skipOffset).getD (c :: rest))
      else pure (c :: rest)
    | some [] => pure []
  return (.moment (String.ofList (cs.take (cs.length - rest.length))), rest)

end Rubric.Toml
