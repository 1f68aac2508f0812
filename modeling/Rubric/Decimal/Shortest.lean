import Rubric.Decimal.Dyadic

namespace Rubric.Decimal

structure Scaled where
  digits : Nat
  scale : Int
deriving DecidableEq, Repr

/-- The reals that round to a double, between `low` and `high` times `2 ^ exponent`; the ends belong
to it when `closed`. -/
structure Interval where
  low : Nat
  value : Nat
  high : Nat
  exponent : Int
  closed : Bool

/-- The interval of a positive double. Below a power of two the doubles lie twice as dense. -/
def Dyadic.interval (d : Dyadic) : Interval where
  low := if d.mantissa = Nat.pow 2 52 then 4 * d.mantissa - 1 else 4 * d.mantissa - 2
  value := 4 * d.mantissa
  high := 4 * d.mantissa + 2
  exponent := d.exponent - 2
  closed := d.mantissa % 2 = 0

/-- `2 ^ exponent / 10 ^ scale` as a fraction of natural numbers. -/
def gridRatio (exponent scale : Int) : Nat × Nat :=
  (Nat.pow 2 exponent.toNat * Nat.pow 10 (-scale).toNat,
    Nat.pow 2 (-exponent).toNat * Nat.pow 10 scale.toNat)

/-- Whether the grid point `k * 10 ^ scale` lies in the interval. -/
def Interval.holds (i : Interval) (scale : Int) (k : Nat) : Bool :=
  let (up, down) := gridRatio i.exponent scale
  if i.closed then i.low * up ≤ k * down && k * down ≤ i.high * up
  else i.low * up < k * down && k * down < i.high * up

/-- The nearest point of a grid that lies in the interval, the greater of two equally near. -/
def Interval.nearest? (i : Interval) (scale : Int) : Option Nat :=
  let (up, down) := gridRatio i.exponent scale
  let below := i.value * up / down
  match i.holds scale below, i.holds scale (below + 1) with
  | false, false => none
  | true, false => some below
  | false, true => some (below + 1)
  | true, true =>
    if i.value * up - below * down < (below + 1) * down - i.value * up then some below
    else some (below + 1)

/-- The first grid with a point in the interval, from `scale` downwards. -/
def Interval.coarsest (i : Interval) : Nat → Int → Scaled
  | 0, scale => ⟨i.value, scale⟩
  | steps + 1, scale =>
    match i.nearest? scale with
    | some k => ⟨k, scale⟩
    | none => i.coarsest steps (scale - 1)

/-- A power of ten that exceeds the number, by a rational estimate of the logarithm of two. -/
def Dyadic.scaleAbove (d : Dyadic) : Int :=
  (d.mantissa.log2 + 1 + d.exponent) * 30103 / 100000 + 2

/-- The shortest decimal of a positive double: the coarsest of the grids `10 ^ scale` with a point
in the interval gives the fewest digits. Seventeen digits always suffice. -/
def Dyadic.shortest (d : Dyadic) : Scaled :=
  d.interval.coarsest 24 d.scaleAbove

def digitChars (n : Nat) : List Char :=
  Nat.toDigits 10 n

def Scaled.positional (s : Scaled) : List Char :=
  let ds := digitChars s.digits
  if s.scale ≥ 0 then ds ++ List.replicate s.scale.toNat '0'
  else
    let places := s.scale.natAbs
    if ds.length > places then
      ds.take (ds.length - places) ++ '.' :: ds.drop (ds.length - places)
    else '0' :: '.' :: (List.replicate (places - ds.length) '0' ++ ds)

/-- A double in positional notation with the fewest digits that read back. -/
def text (x : Float) : String :=
  if x.isNaN then "NaN"
  else
    let sign := if isNegative x then ['-'] else []
    let magnitude :=
      if x.isInf then ['i', 'n', 'f']
      else
        let d := Dyadic.ofFloat x
        if d.mantissa = 0 then ['0'] else d.shortest.positional
    String.ofList (sign ++ magnitude)

/-- The nearest natural number to a fraction, a half going to the even neighbour. -/
def roundQuotientEven (num den : Nat) : Nat :=
  let below := num / den
  let rest := 2 * (num % den)
  if rest < den then below else if den < rest then below + 1 else below + below % 2

/-- A finite double rounded to a fixed number of decimal places. -/
def fixedText (places : Nat) (x : Float) : String :=
  let d := Dyadic.ofFloat x
  let (up, down) := gridRatio d.exponent (-places)
  let ds := digitChars (roundQuotientEven (d.mantissa * up) down)
  let ds := List.replicate (places + 1 - ds.length) '0' ++ ds
  let sign := if isNegative x then ['-'] else []
  String.ofList (sign ++ ds.take (ds.length - places) ++ '.' :: ds.drop (ds.length - places))

end Rubric.Decimal
