import Mathlib

namespace Rubric

open Float.Model
open Float.Model.UnpackedFloat

section round

variable {spec : Format} {m : Nat} {e : Int}

theorem log2_mul_two_pow (hm : m ≠ 0) (k : Nat) : (m * 2 ^ k).log2 = m.log2 + k := by
  induction k with
  | zero => simp
  | succ k ih =>
    have h : m * 2 ^ k ≠ 0 := Nat.mul_ne_zero hm (Nat.ne_of_gt (Nat.two_pow_pos k))
    rw [Nat.pow_succ, ← Nat.mul_assoc, Nat.mul_comm _ 2, Nat.log2_two_mul h, ih, Nat.add_assoc]

theorem shiftRight_two_pow (m k : Nat) :
    (⟨m * 2 ^ k, false, false⟩ : ExtendedMantissa) >>> k = ⟨m, false, false⟩ := by
  induction k generalizing m with
  | zero => rw [Nat.pow_zero, Nat.mul_one]; rfl
  | succ k ih =>
    have h : m * 2 ^ (k + 1) = m * 2 * 2 ^ k := by rw [Nat.pow_succ', Nat.mul_assoc]
    change ExtendedMantissa.shiftRightOne
      ((⟨m * 2 ^ (k + 1), false, false⟩ : ExtendedMantissa) >>> k) = _
    rw [h, ih]
    simp [ExtendedMantissa.shiftRightOne]

theorem shiftToTargetExponent_two_pow (hm : m ≠ 0)
    (he : spec.targetExponent (totalExponent m e) = e) (k : Nat) :
    shiftToTargetExponent spec (m * 2 ^ k) (e - k) .exact = (⟨m, false, false⟩, e) := by
  have htotal : totalExponent (m * 2 ^ k) (e - k) = totalExponent m e := by
    simp only [totalExponent, log2_mul_two_pow hm]
    omega
  have hshift : (e - (e - k)).toNat = k := by omega
  simp only [shiftToTargetExponent, htotal, he, shiftToExponent, hshift,
    ExtendedMantissa.ofMantissaAndAccuracy, shiftRight_two_pow, Int.sub_add_cancel]

/-- Rounding drops zeros at the end of a mantissa. -/
theorem roundWithAccuracy_two_pow (s : Sign) (hm : 0 < m)
    (he : spec.targetExponent (totalExponent m e) = e) (k : Nat) :
    roundWithAccuracy spec s (m * 2 ^ k) (e - k) .exact = .finite s m e hm := by
  have hfirst := shiftToTargetExponent_two_pow (Nat.ne_of_gt hm) he k
  have hsecond := shiftToTargetExponent_two_pow (Nat.ne_of_gt hm) he 0
  rw [Nat.pow_zero, Nat.mul_one, Int.natCast_zero, Int.sub_zero] at hsecond
  have hrounded : (⟨m, false, false⟩ : ExtendedMantissa).roundedMantissa = m := rfl
  simp only [roundWithAccuracy, hfirst, hrounded, hsecond, Nat.ne_of_gt hm, ↓reduceDIte]

end round

section unpack

variable {b : BitVec Format.binary64.numBits} {s : Sign} {m : Nat} {e : Int} {hm : 0 < m}

theorem toNat_unpackMantissa_lt : (unpackMantissa b).toNat < 2 ^ 52 :=
  (unpackMantissa b).isLt

theorem toNat_one_append_unpackMantissa :
    (1#1 ++ unpackMantissa b).toNat = 2 ^ 52 + (unpackMantissa b).toNat := by
  have h := @BitVec.toNat_cons' _ true (unpackMantissa b)
  rw [BitVec.cons, BitVec.toNat_cast, Bool.toNat_true, Nat.one_shiftLeft] at h
  exact h

theorem unpack_eq_finite (h : UnpackedFloat.unpack .binary64 b = .finite s m e hm) :
    (m < 2 ^ 52 ∧ e = -1074) ∨ (m.log2 = 52 ∧ -1074 ≤ e) := by
  have hmantissa := @toNat_unpackMantissa_lt b
  simp only [UnpackedFloat.unpack] at h
  split at h
  · split at h <;> cases h
  · split at h
    · next hzero =>
      split at h
      · cases h
      · injection h with _ hm' he
        rw [hzero] at he
        exact .inl ⟨hm' ▸ hmantissa, he.symm⟩
    · next hnormal =>
      injection h with _ hm' he
      rw [toNat_one_append_unpackMantissa] at hm'
      have hlog : m.log2 = 52 := (Nat.log2_eq_iff (by omega)).2 ⟨by omega, by omega⟩
      have hexponent : (unpackExponent b).toNat ≠ 0 := fun h₀ => hnormal (BitVec.eq_of_toNat_eq h₀)
      have he' : ((unpackExponent b).toNat : Int) - 1075 = e := he
      exact .inr ⟨hlog, by omega⟩

theorem targetExponent_of_unpack (h : UnpackedFloat.unpack .binary64 b = .finite s m e hm) :
    Format.binary64.targetExponent (totalExponent m e) = e := by
  have hbits : Format.binary64.mantissaBits = 53 := rfl
  have hmin : Format.binary64.minExponent = -1074 := rfl
  simp only [Format.targetExponent, totalExponent, hbits, hmin]
  rcases unpack_eq_finite h with ⟨hsmall, rfl⟩ | ⟨hlog, hexponent⟩
  · have hlog : m.log2 < 52 := (Nat.log2_lt (Nat.ne_of_gt hm)).2 hsmall
    omega
  · omega

theorem sign_mul_positive (s : Sign) : s * .positive = s := by
  cases s <;> rfl

theorem mul_one_of_unpack :
    UnpackedFloat.mul .binary64 (UnpackedFloat.unpack .binary64 b)
      (.finite .positive (2 ^ 52) (-52) (by decide)) = UnpackedFloat.unpack .binary64 b := by
  cases hb : UnpackedFloat.unpack .binary64 b with
  | notANumber => rfl
  | infinity s => rw [UnpackedFloat.mul, sign_mul_positive]
  | zero s => rw [UnpackedFloat.mul, sign_mul_positive]
  | finite s m e hm =>
    rw [UnpackedFloat.mul, sign_mul_positive]
    exact roundWithAccuracy_two_pow s hm (targetExponent_of_unpack hb) 52

end unpack

theorem unpack_one :
    (1.0 : Float).toModel.unpack = .finite .positive (2 ^ 52) (-52) (by decide) := rfl

theorem float_mul_one (x : Float) : x * 1.0 = x := by
  obtain ⟨bits, hvalid⟩ := x
  have hmul : UnpackedFloat.pack .binary64 (UnpackedFloat.mul .binary64
      (UnpackedFloat.unpack .binary64 bits.toBitVec) (1.0 : Float).toModel.unpack) =
        bits.toBitVec := by
    rw [unpack_one, mul_one_of_unpack, pack_unpack_of_valid hvalid]
  change Float.ofModel (.pack (UnpackedFloat.mul .binary64
    (UnpackedFloat.unpack .binary64 bits.toBitVec) (1.0 : Float).toModel.unpack)) = _
  simp only [Float.Model.pack, hmul]

end Rubric
