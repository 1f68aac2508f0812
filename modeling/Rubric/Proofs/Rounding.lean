import Rubric.Proofs.FloatText
import Rubric.Proofs.NearestDouble
import Rubric.Proofs.UnitFactor

namespace Rubric.Decimal

open Float.Model
open Float.Model.UnpackedFloat

section residual

variable {em : ExtendedMantissa} {r : ℚ} {k : Nat}

/-- A number that a mantissa is cut from, as far as the residual bits tell. -/
structure Locates (em : ExtendedMantissa) (r : ℚ) : Prop where
  below : em.mantissa ≤ r
  above : r < em.mantissa + 1
  half : em.roundBit = true ↔ em.mantissa + 1 / 2 ≤ r
  sticky : em.stickyBit = false ↔ r = em.mantissa ∨ r = em.mantissa + 1 / 2

theorem Locates.exact (h : Locates em r) :
    (em.roundBit || em.stickyBit) = false ↔ r = em.mantissa := by
  rw [Bool.or_eq_false_iff, h.sticky, ← Bool.not_eq_true, h.half]
  constructor
  · rintro ⟨hhalf, heq | heq⟩
    · exact heq
    · exact absurd heq.ge hhalf
  · intro heq
    refine ⟨?_, .inl heq⟩
    rw [heq]
    linarith

theorem Locates.shiftRightOne (h : Locates em r) : Locates em.shiftRightOne (r / 2) := by
  have hbelow := h.below
  have habove := h.above
  have hsplit : (em.mantissa : ℚ) = 2 * (em.mantissa / 2 : Nat) + (em.mantissa % 2 : Nat) := by
    exact_mod_cast (Nat.div_add_mod em.mantissa 2).symm
  have hodd : em.shiftRightOne.roundBit = true ↔ em.mantissa % 2 ≠ 0 := bne_iff_ne
  have hsticky : em.shiftRightOne.stickyBit = false ↔ r = em.mantissa := h.exact
  have hmantissa : em.shiftRightOne.mantissa = em.mantissa / 2 := rfl
  generalize em.mantissa / 2 = a at hsplit hmantissa
  obtain hbit | hbit := Nat.mod_two_eq_zero_or_one em.mantissa
  · rw [hbit, Nat.cast_zero] at hsplit
    constructor
    · rw [hmantissa]
      linarith
    · rw [hmantissa]
      linarith
    · rw [hodd, hbit, hmantissa]
      exact ⟨fun hne => absurd rfl hne, fun hle => absurd habove (by linarith)⟩
    · rw [hsticky, hmantissa]
      refine ⟨fun heq => .inl (by linarith), ?_⟩
      rintro (heq | heq)
      · linarith
      · exact absurd habove (by linarith)
  · rw [hbit, Nat.cast_one] at hsplit
    constructor
    · rw [hmantissa]
      linarith
    · rw [hmantissa]
      linarith
    · rw [hodd, hbit, hmantissa]
      exact ⟨fun _ => by linarith, fun _ => one_ne_zero⟩
    · rw [hsticky, hmantissa]
      refine ⟨fun heq => .inr (by linarith), ?_⟩
      rintro (heq | heq)
      · exact absurd hbelow (by linarith)
      · linarith

theorem Locates.shiftRight (h : Locates em r) (n : Nat) : Locates (em >>> n) (r / 2 ^ n) := by
  induction n with
  | zero =>
    rw [pow_zero, div_one]
    exact h
  | succ n ih =>
    have hshift : em >>> (n + 1) = (em >>> n).shiftRightOne := rfl
    rw [hshift, pow_succ, ← div_div]
    exact ih.shiftRightOne

theorem mantissa_shiftRight (em : ExtendedMantissa) (n : Nat) :
    (em >>> n).mantissa = em.mantissa / 2 ^ n := by
  induction n with
  | zero => exact (Nat.div_one _).symm
  | succ n ih =>
    have hshift : (em >>> (n + 1)).mantissa = (em >>> n).mantissa / 2 := rfl
    rw [hshift, ih, Nat.div_div_eq_div_mul, Nat.pow_succ]

theorem locates_exact (m : Nat) : Locates (.ofMantissaAndAccuracy m .exact) m where
  below := le_rfl
  above := lt_add_one _
  half := by
    constructor
    · intro hbit
      cases hbit
    · intro hle
      dsimp only [ExtendedMantissa.ofMantissaAndAccuracy] at hle
      linarith
  sticky := ⟨fun _ => .inl rfl, fun _ => rfl⟩

theorem ofMantissaAndAccuracy_inexact (m : Nat) (o : Ordering) :
    ExtendedMantissa.ofMantissaAndAccuracy m (.inexact o) = ⟨m, o.isGE, o != .eq⟩ := by
  cases o <;> rfl

theorem locates_fraction (m : Nat) {num den : Nat} (h : num < den) :
    Locates (.ofMantissaAndAccuracy m (accuracyOfFraction num den)) (m + num / den) := by
  have hden : (0 : ℚ) < den := Nat.cast_pos.2 (Nat.zero_lt_of_lt h)
  rw [accuracyOfFraction]
  split
  · next hzero =>
    rw [hzero, Nat.cast_zero, zero_div, add_zero]
    exact locates_exact m
  · next hne =>
    have hpos : (0 : ℚ) < num / den := div_pos (Nat.cast_pos.2 (Nat.pos_of_ne_zero hne)) hden
    have hone : (num : ℚ) / den < 1 := (div_lt_one hden).2 (Nat.cast_lt.2 h)
    have hhalf : 1 / 2 ≤ (num : ℚ) / den ↔ den ≤ 2 * num := by
      rw [div_le_div_iff₀ two_pos hden, one_mul, mul_comm]
      exact_mod_cast Iff.rfl
    have htie : (num : ℚ) / den = 1 / 2 ↔ 2 * num = den := by
      rw [div_eq_div_iff hden.ne' two_ne_zero, one_mul, mul_comm]
      exact_mod_cast Iff.rfl
    rw [ofMantissaAndAccuracy_inexact]
    constructor <;> dsimp only
    · linarith
    · linarith
    · rw [Nat.isGE_compare, add_le_add_iff_left, hhalf]
    · rw [bne_eq_false_iff_eq, Nat.compare_eq_eq, ← htie]
      constructor
      · intro heq
        exact .inr (by rw [heq])
      · rintro (heq | heq)
        · linarith
        · linarith

/-- A whole number nearest to a number, the even one of two. -/
structure NearWhole (k : Nat) (r : ℚ) : Prop where
  low : k - 1 / 2 ≤ r
  high : r ≤ k + 1 / 2
  tie : r = k - 1 / 2 ∨ r = k + 1 / 2 → k % 2 = 0

theorem Locates.nearWhole (h : Locates em r) : NearWhole em.roundedMantissa r := by
  obtain ⟨m, round, sticky⟩ := em
  obtain ⟨hbelow, habove, hhalf, hsticky⟩ := h
  dsimp only at hbelow habove hhalf hsticky
  cases round with
  | false =>
    have hless : r < m + 1 / 2 := not_le.1 fun hle => Bool.false_ne_true (hhalf.2 hle)
    have hrounded : ∀ s, (⟨m, false, s⟩ : ExtendedMantissa).roundedMantissa = m := by
      rintro (_ | _) <;> rfl
    rw [hrounded]
    refine ⟨by linarith, hless.le, ?_⟩
    rintro (heq | heq)
    · linarith
    · exact absurd heq hless.ne
  | true =>
    have hmore : m + 1 / 2 ≤ r := hhalf.1 rfl
    cases sticky with
    | false =>
      have heq : r = m + 1 / 2 := by
        obtain heq | heq := hsticky.1 rfl
        · linarith
        · exact heq
      have hrounded : (⟨m, true, false⟩ : ExtendedMantissa).roundedMantissa = m + m % 2 := rfl
      rw [hrounded, heq]
      obtain hbit | hbit := Nat.mod_two_eq_zero_or_one m
      · rw [hbit, Nat.add_zero]
        exact ⟨by linarith, le_rfl, fun _ => hbit⟩
      · rw [hbit]
        refine ⟨?_, ?_, fun _ => by omega⟩ <;> push_cast <;> linarith
    | true =>
      have hne : r ≠ m + 1 / 2 := fun heq => Bool.noConfusion (hsticky.2 (.inr heq))
      have hgreater : m + 1 / 2 < r := lt_of_le_of_ne hmore hne.symm
      have hrounded : (⟨m, true, true⟩ : ExtendedMantissa).roundedMantissa = m + 1 := rfl
      rw [hrounded]
      constructor <;> push_cast
      · linarith
      · linarith
      · rintro (heq | heq) <;> linarith

theorem roundedMantissa_bounds (em : ExtendedMantissa) :
    em.mantissa ≤ em.roundedMantissa ∧ em.roundedMantissa ≤ em.mantissa + 1 := by
  obtain ⟨m, round, sticky⟩ := em
  cases round <;> cases sticky <;>
    simp only [ExtendedMantissa.roundedMantissa, ExtendedMantissa.accuracy,
      Accuracy.roundToNearestEven] <;> omega

end residual

section round

variable {m k : Nat} {e t : Int} {a : Accuracy} {r : ℚ}

theorem targetExponent_binary64 (total : Int) :
    Format.binary64.targetExponent total = max (total - 53) (-1074) := rfl

/-- A double as it is before its exponent is checked. -/
def unpacked (s : Sign) (d : Dyadic) : UnpackedFloat :=
  if h : d.mantissa = 0 then .zero s
  else .finite s d.mantissa d.exponent (Nat.pos_of_ne_zero h)

theorem log2_of_lt (hm : m < 2 ^ 53) : m.log2 ≤ 52 := by
  by_cases hzero : m = 0
  · rw [hzero]
    decide
  · exact Nat.le_of_lt_succ ((Nat.log2_lt hzero).2 hm)

theorem log2_of_filled (hm : m < 2 ^ 53) (hfilled : 2 ^ 52 ≤ m) : m.log2 = 52 :=
  (Nat.log2_eq_iff (by omega)).2 ⟨hfilled, hm⟩

theorem targetExponent_of_reduced (h : (⟨k, t⟩ : Dyadic).Reduced) :
    Format.binary64.targetExponent (totalExponent k t) = t := by
  have hleast : -1074 ≤ t := h.least
  have hlog := log2_of_lt h.mantissa
  rw [targetExponent_binary64, totalExponent]
  obtain hfilled | hexponent : 2 ^ 52 ≤ k ∨ t = -1074 := h.filled
  · have hlog := log2_of_filled h.mantissa hfilled
    dsimp only at hlog
    omega
  · dsimp only at hlog
    omega

theorem shiftToTargetExponent_of_reduced (h : (⟨k, t⟩ : Dyadic).Reduced) :
    shiftToTargetExponent .binary64 k t .exact = (⟨k, false, false⟩, t) := by
  simp only [shiftToTargetExponent, targetExponent_of_reduced h, shiftToExponent, Int.sub_self]
  rw [Int.toNat_zero, Int.natCast_zero, Int.add_zero]
  rfl

theorem shiftToTargetExponent_carry (ht : -1074 ≤ t) :
    shiftToTargetExponent .binary64 (2 ^ 53) t .exact = (⟨2 ^ 52, false, false⟩, t + 1) := by
  have htarget : Format.binary64.targetExponent (totalExponent (2 ^ 52) (t + 1)) = t + 1 := by
    rw [targetExponent_binary64, totalExponent, Nat.log2_two_pow]
    omega
  have hshift := shiftToTargetExponent_two_pow (by decide) htarget 1
  rw [Int.natCast_one, Int.add_sub_cancel] at hshift
  exact hshift

theorem div_two_pow_bounds (hbits : 2 ^ 52 ≤ m ∨ e ≤ -1074)
    (ht : t = Format.binary64.targetExponent (totalExponent m e)) :
    -1074 ≤ t ∧ e ≤ t ∧ m / 2 ^ (t - e).toNat < 2 ^ 53 ∧
      (2 ^ 52 ≤ m / 2 ^ (t - e).toNat ∨ t = -1074) := by
  rw [targetExponent_binary64, totalExponent] at ht
  have hle : e ≤ t := by
    obtain hfilled | hexponent := hbits
    · have hlog : 52 ≤ m.log2 := (Nat.le_log2 (by omega)).2 hfilled
      omega
    · omega
  refine ⟨by omega, hle, ?_, ?_⟩
  · rw [Nat.div_lt_iff_lt_mul (Nat.two_pow_pos _), ← Nat.pow_add]
    refine Nat.lt_of_lt_of_le Nat.lt_log2_self (Nat.pow_le_pow_right two_pos ?_)
    omega
  · by_cases hleast : t = -1074
    · exact .inr hleast
    · refine .inl ?_
      have hne : m ≠ 0 := by
        rintro rfl
        have hlog : Nat.log2 0 = 0 := rfl
        omega
      rw [Nat.le_div_iff_mul_le (Nat.two_pow_pos _), ← Nat.pow_add]
      refine Nat.le_trans (Nat.pow_le_pow_right two_pos ?_) (Nat.log2_self_le hne)
      omega

theorem NearWhole.close (h : NearWhole k r) (hd : (⟨k, t⟩ : Dyadic).Reduced)
    (hpower : k = 2 ^ 52 → t ≠ -1074 → k - 1 / 4 ≤ r) : (⟨k, t⟩ : Dyadic).Close (r * 2 ^ t) := by
  have hunit : (0 : ℚ) < 2 ^ t := zpow_pos two_pos t
  have hscale {c : ℚ} : r * 2 ^ t = c * 2 ^ t ↔ r = c := mul_left_inj' hunit.ne'
  have hlow : (k * 2 ^ t - 2 ^ t / 2 : ℚ) = (k - 1 / 2) * 2 ^ t := by ring
  have hhigh : (k * 2 ^ t + 2 ^ t / 2 : ℚ) = (k + 1 / 2) * 2 ^ t := by ring
  have hquarter : (k * 2 ^ t - 2 ^ t / 4 : ℚ) = (k - 1 / 4) * 2 ^ t := by ring
  refine ⟨hd, ?_, ?_, ?_, ?_⟩ <;> simp only [Dyadic.value, Dyadic.unit]
  · rw [hlow]
    exact mul_le_mul_of_nonneg_right h.low hunit.le
  · rw [hhigh]
    exact mul_le_mul_of_nonneg_right h.high hunit.le
  · rw [hlow, hhigh, hscale, hscale]
    exact h.tie
  · intro hk ht
    rw [hquarter]
    exact mul_le_mul_of_nonneg_right (hpower hk ht) hunit.le

/-- The carry leaves a power of two, which has an even mantissa. -/
theorem NearWhole.close_carry (h : NearWhole (2 ^ 53) r) (hlow : 2 ^ 53 - 1 ≤ r)
    (ht : -1074 ≤ t) : (⟨2 ^ 52, t + 1⟩ : Dyadic).Close (r * 2 ^ t) := by
  have hunit : (0 : ℚ) < 2 ^ t := zpow_pos two_pos t
  have htwo : (2 : ℚ) ^ (t + 1) = 2 * 2 ^ t := by rw [zpow_add_one₀ two_ne_zero, mul_comm]
  have hmantissa : (((2 ^ 52 : Nat) : ℚ)) = 2 ^ 52 := by norm_num
  have hnear := h.low
  have hhigh := h.high
  push_cast at hnear hhigh
  have hd : (⟨2 ^ 52, t + 1⟩ : Dyadic).Reduced := by
    refine ⟨Nat.pow_lt_pow_right (by decide) (by decide), ?_, .inl le_rfl⟩
    dsimp only
    omega
  refine ⟨hd, ?_, ?_, fun _ => Nat.two_pow_mod_two_eq_zero.2 (by decide), fun _ _ => ?_⟩ <;>
    simp only [Dyadic.value, Dyadic.unit, hmantissa, htwo]
  · have hle := mul_le_mul_of_nonneg_right hlow hunit.le
    linarith
  · have hle := mul_le_mul_of_nonneg_right hhigh hunit.le
    linarith
  · have hle := mul_le_mul_of_nonneg_right hnear hunit.le
    linarith

theorem roundWithAccuracy_eq_unpacked {em : ExtendedMantissa} {d : Dyadic} (s : Sign)
    (hfirst : shiftToTargetExponent .binary64 m e a = (em, t))
    (hsecond : shiftToTargetExponent .binary64 em.roundedMantissa t .exact =
      (⟨d.mantissa, false, false⟩, d.exponent)) :
    roundWithAccuracy .binary64 s m e a = unpacked s d := by
  simp only [roundWithAccuracy, hfirst, hsecond]
  rfl

/-- What is rounded has enough bits, or is finer than the finest double. -/
theorem roundWithAccuracy_close (hr : Locates (.ofMantissaAndAccuracy m a) r)
    (hbits : 2 ^ 52 ≤ m ∨ e ≤ -1074) :
    ∃ d : Dyadic, d.Close (r * 2 ^ e) ∧
      ∀ s, roundWithAccuracy .binary64 s m e a = unpacked s d := by
  obtain ⟨t, ht⟩ : ∃ t, t = Format.binary64.targetExponent (totalExponent m e) := ⟨_, rfl⟩
  obtain ⟨hleast, hle, hless, hfilled⟩ := div_two_pow_bounds hbits ht
  have hcut := hr.shiftRight (t - e).toNat
  have hmantissa : (ExtendedMantissa.ofMantissaAndAccuracy m a >>> (t - e).toNat).mantissa =
      m / 2 ^ (t - e).toNat := by
    rw [mantissa_shiftRight]
    cases a with
    | exact => rfl
    | inexact o => cases o <;> rfl
  have hvalue : r * 2 ^ e = r / 2 ^ (t - e).toNat * 2 ^ t := by
    have hexponent : t = e + (t - e).toNat := by omega
    rw [div_mul_eq_mul_div, eq_div_iff (pow_ne_zero _ two_ne_zero), mul_assoc, ← zpow_natCast,
      ← zpow_add₀ two_ne_zero, ← hexponent]
  have hfirst : shiftToTargetExponent .binary64 m e a =
      (ExtendedMantissa.ofMantissaAndAccuracy m a >>> (t - e).toNat, t) := by
    have hexponent : e + (t - e).toNat = t := by omega
    simp only [shiftToTargetExponent, ← ht, shiftToExponent, hexponent]
  rw [hvalue]
  generalize r / 2 ^ (t - e).toNat = c at hcut
  generalize ExtendedMantissa.ofMantissaAndAccuracy m a >>> (t - e).toNat = em at *
  obtain ⟨hdown, hup⟩ := roundedMantissa_bounds em
  have hnear := hcut.nearWhole
  have hbelow := hcut.below
  generalize hk : em.roundedMantissa = k at hdown hup hnear
  by_cases hcarry : k = 2 ^ 53
  · rw [hcarry] at hnear hk
    have hgreatest : em.mantissa = 2 ^ 53 - 1 := by omega
    have hlow : 2 ^ 53 - 1 ≤ c := by
      rw [hgreatest] at hbelow
      exact le_trans (by norm_num) hbelow
    refine ⟨_, hnear.close_carry hlow hleast, fun s => ?_⟩
    apply roundWithAccuracy_eq_unpacked s hfirst
    rw [hk]
    exact shiftToTargetExponent_carry hleast
  · have hd : (⟨k, t⟩ : Dyadic).Reduced := by
      refine ⟨?_, hleast, ?_⟩
      · dsimp only
        omega
      · dsimp only
        omega
    refine ⟨_, hnear.close hd ?_, fun s => ?_⟩
    · intro hpower ht
      have hsame : em.mantissa = k := by omega
      rw [hsame] at hbelow
      linarith
    · apply roundWithAccuracy_eq_unpacked s hfirst
      rw [hk]
      exact shiftToTargetExponent_of_reduced hd

end round

end Rubric.Decimal
