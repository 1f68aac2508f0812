import Rubric.Decimal.Logarithm
import Rubric.Decimal.Shortest

namespace Rubric.Decimal

/-- A double rounded to `digits` significant digits in double arithmetic. The logarithm tells how
many digits stand before the point. A number so small or so large that its power of ten leaves the
range of doubles is kept as it is. -/
def roundSignificant (digits : Nat) (x : Float) : Float :=
  if x == 0.0 then 0.0
  else
    let magnitude := floorInt (log10 x) + 1
    let scale := powTen (digits - magnitude)
    if !scale.isFinite || scale == 0.0 then x else roundWhole (x * scale) / scale

/-- The canonical text of a number: twelve significant digits, whole numbers without a fraction, no
negative zero, and zero for what is not finite. -/
def canonical (x : Float) : String :=
  if !x.isFinite then "0" else text (roundSignificant 12 x + 0.0)

theorem canonical_of_not_finite {x : Float} (h : x.isFinite = false) : canonical x = "0" := by
  simp [canonical, h]

end Rubric.Decimal
