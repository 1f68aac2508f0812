import Rubric.Decimal.Dyadic

namespace Rubric.Decimal

/-- One in fixed point, with 160 binary places. -/
def fixedOne : Nat :=
  Nat.pow 2 160

/-- The first terms of `power / odd + power * square / (odd + 2) + …` in fixed point, each power the
one before it times `square`. -/
def artanhSeries (square : Nat) : Nat → Nat → Nat → Nat
  | 0, _, _ => 0
  | steps + 1, power, odd =>
    power / odd + artanhSeries square steps (power * square / fixedOne) (odd + 2)

/-- The natural logarithm of a fraction between one and two in fixed point. It is twice the inverse
hyperbolic tangent of the difference over the sum, which is at most a third, so that 64 terms leave
nothing to add. -/
def fixedLog (num den : Nat) : Nat :=
  let t := (num - den) * fixedOne / (num + den)
  2 * artanhSeries (t * t / fixedOne) 64 t 1

def ofFixed (n : Nat) : Float :=
  Float.ofNat n / Float.ofNat fixedOne

/-- The decimal logarithm of two up to 39 binary places. Its multiples by the exponent of a double
are exact. -/
def log10Two : Float :=
  0.30102999566361177

def log10TwoRest : Float :=
  3.694239077158931e-13

def log10E : Float :=
  0.4342944819032518

/-- The decimal logarithm of the magnitude of a double other than zero. The significand lies between
one and two for a magnitude of one or more, between a half and one below. Each part adds its share
in double arithmetic, so the sum can round up to a whole number that the exact logarithm falls short
of. -/
def log10 (x : Float) : Float :=
  let d := Dyadic.ofFloat x
  let places := d.mantissa.log2
  let exponent : Int := places + d.exponent
  let (exponent, natural) :=
    if exponent < 0 then
      (Float.ofInt (exponent + 1), -ofFixed (fixedLog (Nat.pow 2 (places + 1)) d.mantissa))
    else (Float.ofInt exponent, ofFixed (fixedLog d.mantissa (Nat.pow 2 places)))
  exponent * log10TwoRest + log10E * natural + exponent * log10Two

def floorInt (x : Float) : Int :=
  let d := Dyadic.ofFloat x
  let whole : Int := d.mantissa * Nat.pow 2 d.exponent.toNat
  (if isNegative x then -whole else whole) / (Nat.pow 2 (-d.exponent).toNat : Nat)

end Rubric.Decimal
