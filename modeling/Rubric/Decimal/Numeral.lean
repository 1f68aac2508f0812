import Rubric.Decimal.Dyadic
import Rubric.Text.Blank

namespace Rubric.Decimal

/-- The number `digits * 10 ^ exponent`, negated when `negative`. -/
structure Numeral where
  negative : Bool
  digits : Nat
  exponent : Int
deriving DecidableEq, Repr

def takeDigits (cs : List Char) : List Char × List Char :=
  (cs.takeWhile Char.isDigit, cs.dropWhile Char.isDigit)

theorem takeDigits_append (cs : List Char) : (takeDigits cs).1 ++ (takeDigits cs).2 = cs :=
  List.takeWhile_append_dropWhile

theorem isDigit_of_mem_takeDigits {cs : List Char} {c : Char} (h : c ∈ (takeDigits cs).1) :
    c.isDigit = true := by
  induction cs with
  | nil => simp [takeDigits] at h
  | cons d ds ih =>
    simp only [takeDigits, List.takeWhile_cons] at h ih
    split at h
    · rcases List.mem_cons.1 h with rfl | h
      · assumption
      · exact ih h
    · simp at h

def digitsValue (ds : List Char) : Nat :=
  ds.foldl (fun n d => 10 * n + (d.toNat - '0'.toNat)) 0

def takeSign : List Char → Bool × List Char
  | '-' :: cs => (true, cs)
  | '+' :: cs => (false, cs)
  | cs => (false, cs)

/-- The exponent part of a numeral, which may be missing but must end the text. -/
def readExponent : List Char → Option Int
  | [] => some 0
  | c :: cs =>
    if c = 'e' ∨ c = 'E' then
      let (negative, cs) := takeSign cs
      let (ds, rest) := takeDigits cs
      if ds.isEmpty || !rest.isEmpty then none
      else some (if negative then -(digitsValue ds : Int) else digitsValue ds)
    else none

/-- The fraction digits after a point, which may be missing, and the rest. -/
def takeFraction : List Char → List Char × List Char
  | '.' :: cs => takeDigits cs
  | cs => ([], cs)

def Numeral.ofChars? (cs : List Char) : Option Numeral := do
  let (negative, cs) := takeSign cs
  let (whole, cs) := takeDigits cs
  let (fraction, cs) := takeFraction cs
  if whole.isEmpty && fraction.isEmpty then none
  else
    let exponent ← readExponent cs
    return {
      negative
      digits := digitsValue (whole ++ fraction)
      exponent := exponent - fraction.length
    }

/-- The double nearest to `digits * 10 ^ exponent`. Exponents that settle the answer by themselves
are cut off first, so that no power of ten grows beyond the digits' own length. -/
def nearestDouble (digits : Nat) (exponent : Int) : Float :=
  if digits = 0 then 0.0
  else if exponent > 400 then 1.0 / 0.0
  else if exponent < -(401 + digits.log2 : Nat) then 0.0
  else Float.ofScientific digits (exponent < 0) exponent.natAbs

def Numeral.toFloat (n : Numeral) : Float :=
  let magnitude := nearestDouble n.digits n.exponent
  if n.negative then -magnitude else magnitude

end Rubric.Decimal
