import Mathlib.Algebra.Order.AbsoluteValue.Basic
import Mathlib.Tactic.Linarith
import Rubric.Proofs.RoundingInterval

namespace Rubric.Decimal.Dyadic

variable {d d' : Dyadic} {q : ℚ}

def value (d : Dyadic) : ℚ :=
  d.mantissa * 2 ^ d.exponent

/-- The distance of a double to the next one above it. -/
def unit (d : Dyadic) : ℚ :=
  2 ^ d.exponent

/-- A mantissa and an exponent as a double has them, its exponent not bounded above. -/
structure Reduced (d : Dyadic) : Prop where
  mantissa : d.mantissa < 2 ^ 53
  least : -1074 ≤ d.exponent
  filled : 2 ^ 52 ≤ d.mantissa ∨ d.exponent = -1074

theorem Canonical.reduced (h : d.Canonical) : d.Reduced where
  mantissa := h.mantissa
  least := h.least
  filled := h.filled

theorem unit_pos (d : Dyadic) : 0 < d.unit :=
  zpow_pos two_pos _

theorem value_eq_mul_unit (d : Dyadic) : d.value = d.mantissa * d.unit := rfl

theorem two_mul_unit_le (h : d.exponent < d'.exponent) : 2 * d.unit ≤ d'.unit := by
  have htwo : 2 * d.unit = 2 ^ (1 + d.exponent) := (zpow_one_add₀ two_ne_zero _).symm
  rw [htwo]
  exact zpow_le_zpow_right₀ one_le_two (by omega)

theorem value_le_of_exponent_lt (hd : d.Reduced) (h : d.exponent < d'.exponent) :
    d.value ≤ 2 ^ 52 * d'.unit - d'.unit / 2 := by
  have hunit := two_mul_unit_le h
  have hmantissa : (d.mantissa : ℚ) ≤ 2 ^ 53 - 1 := by
    have hnat : d.mantissa + 1 ≤ 2 ^ 53 := hd.mantissa
    have hcast : ((d.mantissa + 1 : Nat) : ℚ) ≤ ((2 ^ 53 : Nat) : ℚ) := Nat.cast_le.2 hnat
    push_cast at hcast
    linarith
  have hvalue : d.value ≤ (2 ^ 53 - 1) * d.unit :=
    mul_le_mul_of_nonneg_right hmantissa d.unit_pos.le
  linarith

theorem filled_of_exponent_lt (hd : d.Reduced) (hd' : d'.Reduced) (h : d.exponent < d'.exponent) :
    2 ^ 52 * d'.unit ≤ d'.value := by
  have hleast := hd.least
  have hfilled : 2 ^ 52 ≤ d'.mantissa := hd'.filled.resolve_right (by omega)
  have hcast : ((2 ^ 52 : Nat) : ℚ) ≤ d'.mantissa := Nat.cast_le.2 hfilled
  push_cast at hcast
  exact mul_le_mul_of_nonneg_right hcast d'.unit_pos.le

theorem value_lt_of_exponent_lt (hd : d.Reduced) (hd' : d'.Reduced)
    (h : d.exponent < d'.exponent) : d.value < d'.value := by
  have hle := value_le_of_exponent_lt hd h
  have hfilled := filled_of_exponent_lt hd hd' h
  have hpos := d'.unit_pos
  linarith

theorem value_add_unit_le_of_exponent_eq (h : d.exponent = d'.exponent) (hlt : d.value < d'.value) :
    d.value + d.unit ≤ d'.value := by
  have hunit : d'.unit = d.unit := by rw [unit, unit, h]
  rw [value_eq_mul_unit, value_eq_mul_unit, hunit] at hlt ⊢
  have hmantissa : d.mantissa < d'.mantissa :=
    Nat.cast_lt.1 (lt_of_mul_lt_mul_right hlt d.unit_pos.le)
  have hcast : ((d.mantissa + 1 : Nat) : ℚ) ≤ d'.mantissa := Nat.cast_le.2 hmantissa
  push_cast at hcast
  rw [← add_one_mul]
  exact mul_le_mul_of_nonneg_right hcast d.unit_pos.le

theorem value_injective (hd : d.Reduced) (hd' : d'.Reduced) (h : d.value = d'.value) : d = d' := by
  obtain hlt | heq | hgt := lt_trichotomy d.exponent d'.exponent
  · exact absurd h (value_lt_of_exponent_lt hd hd' hlt).ne
  · have hunit : d'.unit = d.unit := by rw [unit, unit, heq]
    rw [value_eq_mul_unit, value_eq_mul_unit, hunit] at h
    have hmantissa : d.mantissa = d'.mantissa :=
      Nat.cast_injective (mul_right_cancel₀ d.unit_pos.ne' h)
    cases d
    cases d'
    cases heq
    cases hmantissa
    rfl
  · exact absurd h.symm (value_lt_of_exponent_lt hd' hd hgt).ne

theorem add_unit_le (hd : d.Reduced) (hd' : d'.Reduced) (hlt : d.value < d'.value) :
    d.value + d.unit ≤ d'.value := by
  obtain h | h | h := lt_trichotomy d.exponent d'.exponent
  · have hle := value_le_of_exponent_lt hd h
    have hfilled := filled_of_exponent_lt hd hd' h
    have hunit := two_mul_unit_le h
    linarith
  · exact value_add_unit_le_of_exponent_eq h hlt
  · exact absurd hlt (value_lt_of_exponent_lt hd' hd h).le.not_gt

theorem add_unit_le_or (hd : d.Reduced) (hd' : d'.Reduced) (hlt : d'.value < d.value) :
    d'.value + d.unit ≤ d.value ∨
      (d.mantissa = 2 ^ 52 ∧ d.exponent ≠ -1074) ∧ d'.value + d.unit / 2 ≤ d.value := by
  obtain h | h | h := lt_trichotomy d.exponent d'.exponent
  · exact absurd hlt (value_lt_of_exponent_lt hd hd' h).le.not_gt
  · have hunit : d.unit = d'.unit := by rw [unit, unit, h]
    rw [hunit]
    exact .inl (value_add_unit_le_of_exponent_eq h.symm hlt)
  · have hle := value_le_of_exponent_lt hd' h
    have hfilled := filled_of_exponent_lt hd' hd h
    have hleast := hd'.least
    have hexponent : d.exponent ≠ -1074 := by omega
    have hmantissa : 2 ^ 52 ≤ d.mantissa := hd.filled.resolve_right hexponent
    obtain heq | hmore := hmantissa.eq_or_lt
    · refine .inr ⟨⟨heq.symm, hexponent⟩, ?_⟩
      linarith
    · refine .inl ?_
      have hcast : (2 ^ 52 + 1 : ℚ) ≤ d.mantissa := by exact_mod_cast hmore
      have hvalue : (2 ^ 52 + 1) * d.unit ≤ d.value :=
        mul_le_mul_of_nonneg_right hcast d.unit_pos.le
      have hpos := d.unit_pos
      linarith

/-- No double is nearer to a number, and if another is as near, this one has an even mantissa. -/
structure Nearest (d : Dyadic) (q : ℚ) : Prop where
  reduced : d.Reduced
  le : ∀ d' : Dyadic, d'.Reduced → |q - d.value| ≤ |q - d'.value|
  even : ∀ d' : Dyadic, d'.Reduced → |q - d'.value| = |q - d.value| →
    d' = d ∨ d.mantissa % 2 = 0

/-- Where the double is a power of two, the doubles below it lie twice as dense. -/
structure Close (d : Dyadic) (q : ℚ) : Prop where
  reduced : d.Reduced
  low : d.value - d.unit / 2 ≤ q
  high : q ≤ d.value + d.unit / 2
  tie : q = d.value - d.unit / 2 ∨ q = d.value + d.unit / 2 → d.mantissa % 2 = 0
  power : d.mantissa = 2 ^ 52 → d.exponent ≠ -1074 → d.value - d.unit / 4 ≤ q

theorem Close.nearer_of_half_unit (h : d.Close q) (hfar : d.unit / 2 ≤ |q - d'.value|) :
    |q - d.value| < |q - d'.value| ∨ |q - d.value| = |q - d'.value| ∧ d.mantissa % 2 = 0 := by
  have hlow := h.low
  have hhigh := h.high
  have hself : |q - d.value| ≤ d.unit / 2 := by
    rw [abs_le]
    constructor
    · linarith
    · linarith
  obtain hless | hsame := (hself.trans hfar).lt_or_eq
  · exact .inl hless
  · refine .inr ⟨hsame, h.tie ?_⟩
    have hhalf : |q - d.value| = d.unit / 2 := le_antisymm hself (hfar.trans hsame.ge)
    obtain ⟨habs, -⟩ | ⟨habs, -⟩ := abs_cases (q - d.value)
    · exact .inr (by linarith)
    · exact .inl (by linarith)

theorem Close.nearer_or (h : d.Close q) (hd' : d'.Reduced) :
    d' = d ∨ |q - d.value| < |q - d'.value| ∨
      |q - d.value| = |q - d'.value| ∧ d.mantissa % 2 = 0 := by
  have hlow := h.low
  have hhigh := h.high
  have habove := neg_le_abs (q - d'.value)
  have hbelow := le_abs_self (q - d'.value)
  obtain hlt | heq | hgt := lt_trichotomy d.value d'.value
  · have hgap := add_unit_le h.reduced hd' hlt
    exact .inr (h.nearer_of_half_unit (by linarith))
  · exact .inl (value_injective h.reduced hd' heq).symm
  · obtain hgap | ⟨⟨hmantissa, hexponent⟩, hgap⟩ := add_unit_le_or h.reduced hd' hgt
    · exact .inr (h.nearer_of_half_unit (by linarith))
    · -- Below a power of two the next double is only half a unit away.
      have hpower := h.power hmantissa hexponent
      have heven : d.mantissa % 2 = 0 := by
        rw [hmantissa]
        rfl
      have hle : |q - d.value| ≤ |q - d'.value| := by
        refine le_trans ?_ hbelow
        rw [abs_le]
        constructor
        · linarith
        · linarith
      exact .inr (hle.lt_or_eq.imp_right fun hsame => ⟨hsame, heven⟩)

theorem Close.nearest (h : d.Close q) : d.Nearest q where
  reduced := h.reduced
  le d' hd' := by
    obtain rfl | hless | ⟨hsame, -⟩ := h.nearer_or hd'
    · exact le_rfl
    · exact hless.le
    · exact hsame.le
  even d' hd' hsame := by
    obtain rfl | hless | ⟨-, heven⟩ := h.nearer_or hd'
    · exact .inl rfl
    · exact absurd hsame hless.ne'
    · exact .inr heven

theorem exists_between (hd : d.Reduced) (hd' : d'.Reduced) (heven : d.mantissa % 2 = 0)
    (heven' : d'.mantissa % 2 = 0) (hlt : d.value < d'.value) :
    ∃ c : Dyadic, c.Reduced ∧ d.value < c.value ∧ c.value < d'.value := by
  have hmantissa := hd.mantissa
  have hvalue : (⟨d.mantissa + 1, d.exponent⟩ : Dyadic).value = d.value + d.unit := by
    simp only [value, unit, Nat.cast_add, Nat.cast_one, add_one_mul]
  have hc : (⟨d.mantissa + 1, d.exponent⟩ : Dyadic).Reduced := by
    refine ⟨?_, hd.least, hd.filled.imp_left fun h => ?_⟩
    · dsimp only
      omega
    · dsimp only
      omega
  refine ⟨_, hc, ?_, lt_of_le_of_ne ?_ ?_⟩
  · rw [hvalue]
    exact lt_add_of_pos_right _ d.unit_pos
  · rw [hvalue]
    exact add_unit_le hd hd' hlt
  · intro heq
    have hsame := value_injective hc hd' heq
    rw [← hsame] at heven'
    dsimp only at heven'
    omega

theorem Nearest.not_value_lt (h : d.Nearest q) (h' : d'.Nearest q) : ¬d.value < d'.value := by
  intro hlt
  have hsame : |q - d'.value| = |q - d.value| :=
    le_antisymm (h'.le d h.reduced) (h.le d' h'.reduced)
  have hne : d ≠ d' := by
    rintro rfl
    exact hlt.false
  have heven := (h.even d' h'.reduced hsame).resolve_left hne.symm
  have heven' := (h'.even d h.reduced hsame.symm).resolve_left hne
  obtain ⟨c, hc, hbelow, habove⟩ := exists_between h.reduced h'.reduced heven heven' hlt
  have hle := h.le c hc
  -- The number is half way between the two, and so is nearer to what lies between them.
  obtain ⟨hq, habs⟩ | ⟨hq, habs⟩ := abs_cases (q - d.value) <;>
    obtain ⟨hq', habs'⟩ | ⟨hq', habs'⟩ := abs_cases (q - d'.value) <;>
    obtain ⟨hc', habsc⟩ | ⟨hc', habsc⟩ := abs_cases (q - c.value) <;>
    linarith

/-- Only one double is nearest to a number. -/
theorem Nearest.unique (h : d.Nearest q) (h' : d'.Nearest q) : d = d' :=
  value_injective h.reduced h'.reduced
    (le_antisymm (not_lt.1 (h'.not_value_lt h)) (not_lt.1 (h.not_value_lt h')))

/-- Half way from the greatest double to where the next one would be. -/
def overflow : ℚ :=
  (2 ^ 54 - 1) * 2 ^ 970

theorem value_le_of_mantissa_le {m : Nat} (hm : d.mantissa ≤ m) (he : d.exponent ≤ 971) :
    d.value ≤ m * (2 * 2 ^ 970) := by
  have hunit : d.unit ≤ 2 * 2 ^ 970 := by
    have hle : d.unit ≤ 2 ^ (971 : Int) := zpow_le_zpow_right₀ one_le_two he
    rw [← pow_succ']
    exact hle
  exact mul_le_mul (Nat.cast_le.2 hm) hunit d.unit_pos.le (Nat.cast_nonneg m)

/-- Beyond the threshold a number is nearer to where the next double after the greatest would be. -/
theorem Nearest.lt_overflow (h : d.Nearest q) (he : d.exponent ≤ 971) : q < overflow := by
  have hnext : (⟨2 ^ 52, 972⟩ : Dyadic).Reduced := ⟨by norm_num, by norm_num, .inl le_rfl⟩
  have hvalue : (⟨2 ^ 52, 972⟩ : Dyadic).value = 2 ^ 54 * 2 ^ 970 := by
    have hmantissa : ((2 ^ 52 : Nat) : ℚ) = 2 ^ 52 := by norm_num only
    have hexponent : (2 : ℚ) ^ (972 : Int) = 2 ^ 2 * 2 ^ 970 := by
      rw [← pow_add]
      rfl
    rw [value, hmantissa, hexponent, ← mul_assoc, ← pow_add]
  have hless := h.reduced.mantissa
  have hle := h.le _ hnext
  have heven := h.even _ hnext
  have hbound {m : Nat} (hm : d.mantissa ≤ m) := value_le_of_mantissa_le hm he
  have hhalf : (0 : ℚ) < 2 ^ 970 := by positivity
  have hself := le_abs_self (q - d.value)
  by_contra hq
  rw [overflow, not_lt] at hq
  rw [hvalue] at hle heven
  generalize (2 : ℚ) ^ 970 = half at hbound hhalf hle heven hq
  obtain hbit | hbit := Nat.mod_two_eq_zero_or_one d.mantissa
  · have hgreatest := hbound (by omega : d.mantissa ≤ 2 ^ 53 - 2)
    norm_num at hgreatest
    obtain ⟨habs, -⟩ | ⟨habs, -⟩ := abs_cases (q - 2 ^ 54 * half)
    · linarith
    · linarith
  · have hgreatest := hbound (by omega : d.mantissa ≤ 2 ^ 53 - 1)
    norm_num at hgreatest
    have hfar : |q - 2 ^ 54 * half| ≠ |q - d.value| := by
      intro hsame
      obtain heq | hzero := heven hsame
      · rw [← heq] at he
        norm_num at he
      · omega
    have hlt := lt_of_le_of_ne hle hfar.symm
    obtain ⟨habs, -⟩ | ⟨habs, -⟩ := abs_cases (q - 2 ^ 54 * half)
    · linarith
    · linarith

theorem Close.overflow_le (h : d.Close q) (he : 971 < d.exponent) : overflow ≤ q := by
  have hunit : 4 * 2 ^ 970 ≤ d.unit := by
    have hle : (2 : ℚ) ^ (972 : Int) ≤ d.unit := zpow_le_zpow_right₀ one_le_two (by omega)
    have hfour : (4 : ℚ) * 2 ^ 970 = 2 ^ 2 * 2 ^ 970 := by norm_num only
    rw [hfour, ← pow_add]
    exact hle
  have hexponent : d.exponent ≠ -1074 := by omega
  have hfilled := h.reduced.filled.resolve_right hexponent
  have hlow := h.low
  have hpos := d.unit_pos
  rw [overflow]
  generalize (2 : ℚ) ^ 970 = half at hunit ⊢
  obtain hpower | hmore := hfilled.eq_or_lt
  · have hlow' := h.power hpower.symm hexponent
    have hvalue : d.value = 2 ^ 52 * d.unit := by
      rw [value_eq_mul_unit, ← hpower]
      norm_num
    linarith
  · have hvalue : (2 ^ 52 + 1) * d.unit ≤ d.value := by
      refine mul_le_mul_of_nonneg_right ?_ hpos.le
      have hcast : ((2 ^ 52 + 1 : Nat) : ℚ) ≤ d.mantissa := Nat.cast_le.2 hmore
      exact le_trans (by norm_num) hcast
    linarith

end Rubric.Decimal.Dyadic
