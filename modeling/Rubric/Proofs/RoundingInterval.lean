import Mathlib.Algebra.Order.Field.Power
import Mathlib.Algebra.Order.Field.Rat
import Mathlib.Tactic.NormNum
import Mathlib.Tactic.Positivity
import Rubric.Decimal.Shortest

namespace Rubric.Decimal

theorem zpow_mul_pow_toNat {b : ℚ} (hb : b ≠ 0) (e : Int) : b ^ e * b ^ (-e).toNat = b ^ e.toNat := by
  rw [← zpow_natCast, ← zpow_natCast, ← zpow_add₀ hb]
  congr 1
  omega

theorem gridRatio_eq (e s : Int) : ∃ c : ℚ, 0 < c ∧ ((gridRatio e s).1 : ℚ) = 2 ^ e * c ∧
    ((gridRatio e s).2 : ℚ) = 10 ^ s * c := by
  refine ⟨2 ^ (-e).toNat * 10 ^ (-s).toNat, by positivity, ?_, ?_⟩
  · simp only [gridRatio, Nat.pow_eq, Nat.cast_mul, Nat.cast_pow, Nat.cast_ofNat]
    rw [← mul_assoc, zpow_mul_pow_toNat two_ne_zero]
  · simp only [gridRatio, Nat.pow_eq, Nat.cast_mul, Nat.cast_pow, Nat.cast_ofNat]
    rw [mul_left_comm, zpow_mul_pow_toNat (by norm_num)]

/-- Ten to a power is at most two to another if their exponents are far enough apart: two has
196 / 59 and 93 / 28 as approximations of the logarithm of ten from above and from below. -/
theorem ten_zpow_le_two_zpow {a b : Int} (habove : 196 * a ≤ 59 * b) (hbelow : 93 * a ≤ 28 * b) :
    (10 : ℚ) ^ a ≤ 2 ^ b := by
  obtain ha | ha := Int.le_total 0 a
  · refine le_of_pow_le_pow_left₀ (n := 59) (by norm_num) (by positivity) ?_
    calc ((10 : ℚ) ^ a) ^ 59 = (10 ^ 59) ^ a := by
          rw [← zpow_natCast, ← zpow_natCast, ← zpow_mul, ← zpow_mul, mul_comm]
      _ ≤ (2 ^ 196) ^ a := zpow_le_zpow_left₀ ha (by norm_num) (by norm_num)
      _ = 2 ^ (196 * a) := by rw [← zpow_natCast, ← zpow_mul]; rfl
      _ ≤ 2 ^ (59 * b) := zpow_le_zpow_right₀ one_le_two habove
      _ = (2 ^ b) ^ 59 := by rw [← zpow_natCast, ← zpow_mul, mul_comm]; rfl
  · refine le_of_pow_le_pow_left₀ (n := 28) (by norm_num) (by positivity) ?_
    calc ((10 : ℚ) ^ a) ^ 28 = (10 ^ 28) ^ a := by
          rw [← zpow_natCast, ← zpow_natCast, ← zpow_mul, ← zpow_mul, mul_comm]
      _ ≤ (2 ^ 93) ^ a := by
          rw [← inv_le_inv₀ (by positivity) (by positivity), ← zpow_neg, ← zpow_neg]
          exact zpow_le_zpow_left₀ (by omega) (by norm_num) (by norm_num)
      _ = 2 ^ (93 * a) := by rw [← zpow_natCast, ← zpow_mul]; rfl
      _ ≤ 2 ^ (28 * b) := zpow_le_zpow_right₀ one_le_two hbelow
      _ = (2 ^ b) ^ 28 := by rw [← zpow_natCast, ← zpow_mul, mul_comm]; rfl

def Scaled.value (s : Scaled) : ℚ :=
  s.digits * 10 ^ s.scale

namespace Interval

structure Contains (i : Interval) (q : ℚ) : Prop where
  low : i.low * 2 ^ i.exponent ≤ q
  high : q ≤ i.high * 2 ^ i.exponent
  inside : i.closed = false → i.low * 2 ^ i.exponent < q ∧ q < i.high * 2 ^ i.exponent

variable {i : Interval} {scale : Int} {k : Nat}

theorem holds_iff_contains : i.holds scale k = true ↔ i.Contains (Scaled.value ⟨k, scale⟩) := by
  obtain ⟨c, hc, hup, hdown⟩ := gridRatio_eq i.exponent scale
  have hend (a : Nat) :
      ((a * (gridRatio i.exponent scale).1 : Nat) : ℚ) = a * 2 ^ i.exponent * c := by
    rw [Nat.cast_mul, hup, mul_assoc]
  have hpoint (b : Nat) :
      ((b * (gridRatio i.exponent scale).2 : Nat) : ℚ) = b * 10 ^ scale * c := by
    rw [Nat.cast_mul, hdown, mul_assoc]
  have hle (a b : Nat) : a * (gridRatio i.exponent scale).1 ≤ b * (gridRatio i.exponent scale).2 ↔
      (a : ℚ) * 2 ^ i.exponent ≤ b * 10 ^ scale := by
    rw [← Nat.cast_le (α := ℚ), hend, hpoint, mul_le_mul_iff_left₀ hc]
  have hge (a b : Nat) : b * (gridRatio i.exponent scale).2 ≤ a * (gridRatio i.exponent scale).1 ↔
      (b : ℚ) * 10 ^ scale ≤ a * 2 ^ i.exponent := by
    rw [← Nat.cast_le (α := ℚ), hend, hpoint, mul_le_mul_iff_left₀ hc]
  rw [holds]
  dsimp only
  split
  · next hclosed =>
    rw [Bool.and_eq_true, decide_eq_true_eq, decide_eq_true_eq, hle, hge]
    exact ⟨fun ⟨hlow, hhigh⟩ => ⟨hlow, hhigh, by simp [hclosed]⟩, fun h => ⟨h.low, h.high⟩⟩
  · next hopen =>
    rw [Bool.and_eq_true, decide_eq_true_eq, decide_eq_true_eq, ← Nat.not_le, ← Nat.not_le, hle,
      hge, not_le, not_le]
    exact ⟨fun h => ⟨h.1.le, h.2.le, fun _ => h⟩, fun h => h.inside (Bool.eq_false_iff.2 hopen)⟩

theorem holds_of_nearest? (h : i.nearest? scale = some k) : i.holds scale k = true := by
  rw [nearest?] at h
  dsimp only at h
  split at h
  · cases h
  · cases h
    assumption
  · cases h
    assumption
  · split at h
    · cases h
      assumption
    · cases h
      assumption

/-- On a grid finer than the units of an interval the point below its value lies in it. -/
theorem holds_below (hlow : i.low < i.value) (hhigh : i.value < i.high)
    (h : (10 : ℚ) ^ scale ≤ 2 ^ i.exponent) :
    i.holds scale
      (i.value * (gridRatio i.exponent scale).1 / (gridRatio i.exponent scale).2) = true := by
  obtain ⟨c, hc, hup, hdown⟩ := gridRatio_eq i.exponent scale
  have hfine : (gridRatio i.exponent scale).2 ≤ (gridRatio i.exponent scale).1 := by
    rw [← Nat.cast_le (α := ℚ), hup, hdown]
    exact mul_le_mul_of_nonneg_right h hc.le
  have hpositive : 0 < (gridRatio i.exponent scale).2 := by
    rw [← Nat.cast_pos (α := ℚ), hdown]
    positivity
  generalize hu : (gridRatio i.exponent scale).1 = up at hfine
  generalize hd : (gridRatio i.exponent scale).2 = down at hfine hpositive
  have hfloor := Nat.div_mul_le_self (i.value * up) down
  have hnext := Nat.lt_div_mul_add hpositive (a := i.value * up)
  have hleft : (i.low + 1) * up ≤ i.value * up := Nat.mul_le_mul_right _ hlow
  have hright : (i.value + 1) * up ≤ i.high * up := Nat.mul_le_mul_right _ hhigh
  rw [Nat.add_mul, Nat.one_mul] at hleft hright
  rw [holds]
  dsimp only
  rw [hu, hd]
  split
  · simp only [Bool.and_eq_true, decide_eq_true_eq]
    omega
  · simp only [Bool.and_eq_true, decide_eq_true_eq]
    omega

theorem isSome_nearest? (hlow : i.low < i.value) (hhigh : i.value < i.high)
    (h : (10 : ℚ) ^ scale ≤ 2 ^ i.exponent) : (i.nearest? scale).isSome = true := by
  rw [nearest?]
  dsimp only
  rw [holds_below hlow hhigh h]
  cases i.holds scale
    (i.value * (gridRatio i.exponent scale).1 / (gridRatio i.exponent scale).2 + 1)
  · rfl
  · dsimp only
    split <;> rfl

theorem contains_coarsest {steps : Nat}
    (h : ∃ j : Nat, j < steps ∧ (i.nearest? (scale - j)).isSome = true) :
    i.Contains (i.coarsest steps scale).value := by
  induction steps generalizing scale with
  | zero =>
    obtain ⟨j, hj, -⟩ := h
    omega
  | succ steps ih =>
    rw [coarsest]
    cases hk : i.nearest? scale with
    | some k => exact holds_iff_contains.1 (holds_of_nearest? hk)
    | none =>
      refine ih ?_
      obtain ⟨j, hj, hsome⟩ := h
      cases j with
      | zero =>
        rw [Int.natCast_zero, Int.sub_zero, hk] at hsome
        cases hsome
      | succ j =>
        refine ⟨j, by omega, ?_⟩
        rwa [Int.sub_sub, Int.add_comm 1, ← Int.natCast_succ]

end Interval

namespace Dyadic

/-- A double's own mantissa and exponent: the mantissa is filled unless the exponent is least. -/
structure Canonical (d : Dyadic) : Prop where
  mantissa : d.mantissa < 2 ^ 53
  least : -1074 ≤ d.exponent
  greatest : d.exponent ≤ 972
  filled : 2 ^ 52 ≤ d.mantissa ∨ d.exponent = -1074

variable {d d' : Dyadic} {q : ℚ}

theorem interval_value_lt (hd : d.mantissa ≠ 0) :
    d.interval.low < d.interval.value ∧ d.interval.value < d.interval.high := by
  simp only [interval]
  split
  · omega
  · omega

theorem ten_zpow_scaleAbove_le (h : d.Canonical) (hd : d.mantissa ≠ 0) :
    (10 : ℚ) ^ (d.scaleAbove - 23) ≤ 2 ^ (d.exponent - 2) := by
  have hlog : d.mantissa.log2 < 53 := (Nat.log2_lt hd).2 h.mantissa
  have hleast := h.least
  have hgreatest := h.greatest
  refine ten_zpow_le_two_zpow ?_ ?_
  · rw [scaleAbove]
    omega
  · rw [scaleAbove]
    omega

/-- The shortest decimal of a double lies in its interval. -/
theorem interval_contains_shortest (h : d.Canonical) (hd : d.mantissa ≠ 0) :
    d.interval.Contains d.shortest.value := by
  obtain ⟨hlow, hhigh⟩ := interval_value_lt hd
  refine Interval.contains_coarsest ⟨23, by omega, Interval.isSome_nearest? hlow hhigh ?_⟩
  exact ten_zpow_scaleAbove_le h hd

theorem low_le_high (he : d.exponent ≤ d'.exponent) (h : d.interval.Contains q)
    (h' : d'.interval.Contains q) :
    d'.interval.low * 2 ^ (d'.exponent - d.exponent).toNat ≤ d.interval.high ∧
      (d.interval.closed = false ∨ d'.interval.closed = false →
        d'.interval.low * 2 ^ (d'.exponent - d.exponent).toNat < d.interval.high) := by
  have hunit : (0 : ℚ) < 2 ^ d.interval.exponent := by positivity
  have hexponent : (2 : ℚ) ^ d'.interval.exponent =
      2 ^ (d'.exponent - d.exponent).toNat * 2 ^ d.interval.exponent := by
    rw [← zpow_natCast, ← zpow_add₀ two_ne_zero]
    congr 1
    simp only [interval]
    omega
  have hlow := h'.low
  have hinside := h'.inside
  rw [hexponent, ← mul_assoc] at hlow hinside
  constructor
  · rw [← Nat.cast_le (α := ℚ), Nat.cast_mul, Nat.cast_pow, Nat.cast_ofNat,
      ← mul_le_mul_iff_left₀ hunit]
    exact hlow.trans h.high
  · intro hopen
    rw [← Nat.cast_lt (α := ℚ), Nat.cast_mul, Nat.cast_pow, Nat.cast_ofNat,
      ← mul_lt_mul_iff_left₀ hunit]
    obtain hopen | hopen := hopen
    · exact hlow.trans_lt (h.inside hopen).2
    · exact (hinside hopen).1.trans_le h.high

theorem interval_low (d : Dyadic) : 4 * d.mantissa ≤ d.interval.low + 2 ∧
    (d.mantissa = 2 ^ 52 → 4 * d.mantissa ≤ d.interval.low + 1) := by
  simp only [interval, Nat.pow_eq, Nat.reducePow]
  split
  · omega
  · omega

theorem exponent_le_of_contains (hd : d.Canonical) (hd' : d'.Canonical)
    (h : d.interval.Contains q) (h' : d'.interval.Contains q) : d'.exponent ≤ d.exponent := by
  by_contra hlt
  obtain ⟨hle, hstrict⟩ := low_le_high (by omega) h h'
  obtain ⟨k, hk⟩ : ∃ k, (d'.exponent - d.exponent).toNat = k + 1 :=
    Nat.exists_eq_succ_of_ne_zero (by omega)
  have hfilled : 2 ^ 52 ≤ d'.mantissa := by
    have := hd.least
    exact hd'.filled.resolve_right (by omega)
  have hlow : 2 ^ 54 - 1 ≤ d'.interval.low := by
    have := d'.interval_low
    omega
  have hgrown : (2 ^ 54 - 1) * 2 ≤ d'.interval.low * 2 ^ (d'.exponent - d.exponent).toNat := by
    rw [hk]
    exact Nat.mul_le_mul hlow (Nat.le_self_pow (Nat.succ_ne_zero k) 2)
  have hmantissa := hd.mantissa
  have hhigh : d.interval.high = 4 * d.mantissa + 2 := rfl
  have hopen : d.mantissa % 2 ≠ 0 → d.interval.closed = false := decide_eq_false
  by_cases hodd : d.mantissa % 2 = 0
  · omega
  · have := hstrict (.inl (hopen hodd))
    omega

theorem mantissa_le_of_contains (he : d.exponent = d'.exponent)
    (h : d.interval.Contains q) (h' : d'.interval.Contains q) : d'.mantissa ≤ d.mantissa := by
  by_contra hlt
  obtain ⟨hle, hstrict⟩ := low_le_high he.le h h'
  have hzero : (d'.exponent - d.exponent).toNat = 0 := by omega
  rw [hzero, pow_zero, Nat.mul_one] at hle hstrict
  obtain ⟨hlow, -⟩ := d'.interval_low
  have hhigh : d.interval.high = 4 * d.mantissa + 2 := rfl
  have hopen : d.interval.closed = false ∨ d'.interval.closed = false := by
    simp only [interval, decide_eq_false_iff_not]
    omega
  have := hstrict hopen
  omega

/-- No number lies in the intervals of two doubles. -/
theorem eq_of_contains (hd : d.Canonical) (hd' : d'.Canonical) (h : d.interval.Contains q)
    (h' : d'.interval.Contains q) : d = d' := by
  have he : d.exponent = d'.exponent :=
    Int.le_antisymm (exponent_le_of_contains hd' hd h' h) (exponent_le_of_contains hd hd' h h')
  have hm : d.mantissa = d'.mantissa :=
    Nat.le_antisymm (mantissa_le_of_contains he.symm h' h) (mantissa_le_of_contains he h h')
  cases d
  cases d'
  cases hm
  cases he
  rfl

/-- Doubles whose shortest decimals denote the same number are the same. -/
theorem eq_of_shortest_eq (hd : d.Canonical) (hd' : d'.Canonical) (hne : d.mantissa ≠ 0)
    (hne' : d'.mantissa ≠ 0) (h : d.shortest.value = d'.shortest.value) : d = d' :=
  eq_of_contains hd hd' (interval_contains_shortest hd hne)
    (h ▸ interval_contains_shortest hd' hne')

end Dyadic

end Rubric.Decimal
