import Rubric.Decimal.Shortest
import Rubric.Decimal.Numeral
import Rubric.Json.Basic

namespace Rubric.Json

structure NumberText where
  negative : Bool
  whole : List Char
  fraction : List Char
  /-- The sign and digits of the exponent. -/
  exponent : Option (Bool × List Char)

/-- Takes the whole digits of a number; a leading zero stands alone. -/
def takeWhole (cs : List Char) : Option (List Char × List Char) :=
  match Decimal.takeDigits cs with
  | ([], _) => none
  | ('0' :: _ :: _, _) => none
  | (ds, rest) => some (ds, rest)

/-- Takes the fraction digits of a number; a point needs at least one. -/
def takePlaces : List Char → Option (List Char × List Char)
  | '.' :: cs =>
    match Decimal.takeDigits cs with
    | ([], _) => none
    | (ds, rest) => some (ds, rest)
  | cs => some ([], cs)

/-- Takes the exponent of a number, if it has one. -/
def takeExponent : List Char → Option (Option (Bool × List Char) × List Char)
  | c :: cs =>
    if c = 'e' ∨ c = 'E' then
      let (negative, cs) := Decimal.takeSign cs
      match Decimal.takeDigits cs with
      | ([], _) => none
      | (ds, rest) => some (some (negative, ds), rest)
    else some (none, c :: cs)
  | [] => some (none, [])

def takeNumber (cs : List Char) : Option (NumberText × List Char) := do
  let (negative, cs) := match cs with
    | '-' :: cs => (true, cs)
    | cs => (false, cs)
  let (whole, cs) ← takeWhole cs
  let (fraction, cs) ← takePlaces cs
  let (exponent, cs) ← takeExponent cs
  return (⟨negative, whole, fraction, exponent⟩, cs)

/-- Appends digits to a number as long as it stays below `2 ^ 64`; what is left over follows. -/
def appendDigits (n : Nat) : List Char → Nat × List Char
  | [] => (n, [])
  | d :: ds =>
    let longer := 10 * n + (d.toNat - '0'.toNat)
    if longer < Nat.pow 2 64 then appendDigits longer ds else (n, d :: ds)

def tenTo (n : Nat) : Float :=
  Float.ofScientific 1 false n

/-- A double times a power of ten in double arithmetic, unless it leaves the range. Powers beyond
the least are taken in steps of at most 308. -/
def scaleByTen : Nat → Float → Int → Option Float
  | 0, x, _ => some x
  | steps + 1, x, exponent =>
    if exponent.natAbs ≤ 308 then
      if exponent ≥ 0 then
        let y := x * tenTo exponent.natAbs
        if y.isFinite then some y else none
      else some (x / tenTo exponent.natAbs)
    else if x == 0.0 then some x
    else if exponent ≥ 0 then none
    else scaleByTen steps (x / 1e308) (exponent + 308)

/-- The double of a row of digits times a power of ten, negated if asked. -/
def doubleOf (negative : Bool) (digits : Nat) (exponent : Int) : Option Float :=
  (scaleByTen 4 (Float.ofNat digits) exponent).map fun x => if negative then -x else x

/-- The number that a text stands for, unless it leaves the range of doubles. A whole number that
fits 64 bits is exact. Of any other the leading digits that fit 64 bits are taken as a double, which
is multiplied or divided by a power of ten. -/
def NumberText.value? (t : NumberText) : Option JsonNumber :=
  let (digits, cut) := appendDigits 0 t.whole
  if cut.isEmpty && t.fraction.isEmpty && t.exponent.isNone then
    if !t.negative then some (.natural digits)
    else if digits = 0 || digits > Nat.pow 2 63 then some (.double (-(Float.ofNat digits)))
    else some (.negative (digits - 1))
  else
    let (digits, uncounted) := appendDigits digits t.fraction
    let places : Int := cut.length - (t.fraction.length - uncounted.length)
    .double <$>
      match t.exponent with
      | none => doubleOf t.negative digits places
      | some (down, ds) =>
        let power := Decimal.digitsValue ds
        if power ≥ Nat.pow 2 31 then
          if digits ≠ 0 && !down then none else some (if t.negative then -0.0 else 0.0)
        else doubleOf t.negative digits (if down then places - power else places + power)

/-- A positive double written with the fewest digits: positional within sixteen places, else with
an exponent. -/
def scaledText (s : Decimal.Scaled) : List Char :=
  let ds := Decimal.digitChars s.digits
  let point : Int := ds.length + s.scale
  let exponent := (toString (point - 1)).toList
  if 0 ≤ s.scale && point ≤ 16 then s.positional ++ ['.', '0']
  else if -5 < point && point ≤ 16 then s.positional
  else
    match ds with
    | [d] => d :: 'e' :: exponent
    | d :: ds => d :: '.' :: ds ++ 'e' :: exponent
    | [] => []

/-- A double as a JSON number; what is not finite is null. -/
def doubleText (x : Float) : List Char :=
  if !x.isFinite then ['n', 'u', 'l', 'l']
  else
    let d := Decimal.Dyadic.ofFloat x
    let magnitude := if d.mantissa = 0 then ['0', '.', '0'] else scaledText d.shortest
    if Decimal.isNegative x then '-' :: magnitude else magnitude

def numberText : JsonNumber → List Char
  | .natural n => Decimal.digitChars n
  | .negative n => '-' :: Decimal.digitChars (n + 1)
  | .double x => doubleText x

end Rubric.Json
