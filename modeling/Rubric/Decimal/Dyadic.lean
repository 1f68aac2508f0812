namespace Rubric.Decimal

structure Dyadic where
  mantissa : Nat
  exponent : Int
deriving DecidableEq, Repr

def Dyadic.ofFloat (x : Float) : Dyadic :=
  let bits := x.toBits.toNat
  let fraction := bits % Nat.pow 2 52
  let biased : Nat := bits / Nat.pow 2 52 % Nat.pow 2 11
  if biased = 0 then ⟨fraction, -1074⟩ else ⟨Nat.pow 2 52 + fraction, (biased : Int) - 1075⟩

/-- Whether the sign of a double is negative; true of negative zero too. -/
def isNegative (x : Float) : Bool :=
  x.toBits.toNat ≥ Nat.pow 2 63

/-- The nearest natural number to `mantissa / 2 ^ places`, a half going up. -/
def roundShift (mantissa places : Nat) : Nat :=
  (2 * mantissa + Nat.pow 2 places) / Nat.pow 2 (places + 1)

/-- The nearest whole number to a finite double, a half going away from zero. -/
def roundWhole (x : Float) : Float :=
  let d := Dyadic.ofFloat x
  if d.exponent ≥ 0 then x
  else
    let whole := Float.ofNat (roundShift d.mantissa d.exponent.natAbs)
    if isNegative x then -whole else whole

/-- Ten to the power of a natural number in double arithmetic, by repeated squaring: `base` is ten
squared once per step taken, and `product` holds the factors taken so far. -/
def powTenFrom (product base : Float) : Nat → Nat → Float
  | 0, _ => product
  | steps + 1, n =>
    let product := if n % 2 = 1 then product * base else product
    if n / 2 = 0 then product else powTenFrom product (base * base) steps (n / 2)

/-- Ten to an integral power in double arithmetic; negative powers are reciprocals. -/
def powTen (n : Int) : Float :=
  let power := powTenFrom 1.0 10.0 (n.natAbs.log2 + 1) n.natAbs
  if n < 0 then 1.0 / power else power

end Rubric.Decimal
