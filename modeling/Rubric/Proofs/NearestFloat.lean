import Rubric.Proofs.Packing

namespace Rubric.Decimal

open Float.Model
open Float.Model.UnpackedFloat

variable {s : Sign} {d : Dyadic} {q : ℚ} {x : Float}

/-- The double that a magnitude is rounded to, which is infinite if it is out of range. -/
inductive RoundedTo (s : Sign) (q : ℚ) : Float → Prop
  | infinite : Dyadic.overflow ≤ q → RoundedTo s q (.ofModel (.pack (.infinity s)))
  | finite {d : Dyadic} : d.Close q → d.exponent ≤ 971 →
      RoundedTo s q (.ofModel (.pack (unpacked s d)))

namespace RoundedTo

theorem of_close (h : d.Close q) : RoundedTo s q (.ofModel (.pack (unpacked s d))) := by
  by_cases he : d.exponent ≤ 971
  · exact .finite h he
  · rw [not_le] at he
    have hpack : Float.Model.pack (unpacked s d) = .pack (.infinity s) := by
      have hinfinity : UnpackedFloat.pack .binary64 (.infinity s) =
          packedInfinity .binary64 s := rfl
      simp only [Float.Model.pack, pack_unpacked_of_lt s h.reduced he, hinfinity]
    rw [hpack]
    exact .infinite (h.overflow_le he)

theorem isFinite_iff (h : RoundedTo s q x) : x.isFinite = true ↔ q < Dyadic.overflow := by
  cases h with
  | infinite hq =>
    constructor
    · intro hfinite
      cases s <;> cases hfinite
    · intro hlt
      exact absurd hq hlt.not_ge
  | @finite d hclose he =>
    have hfinite : (Float.ofModel (.pack (unpacked s d))).isFinite =
        (Float.Model.pack (unpacked s d)).unpack.isFinite := rfl
    rw [hfinite, unpack_pack_unpacked s hclose.reduced he]
    refine ⟨fun _ => hclose.nearest.lt_overflow he, fun _ => ?_⟩
    rw [unpacked]
    split <;> rfl

theorem nearest (h : RoundedTo s q x) (hfinite : x.isFinite = true) :
    isNegative x = (s == .negative) ∧ (Dyadic.ofFloat x).Nearest q := by
  cases h with
  | infinite hq => cases s <;> cases hfinite
  | finite hclose he =>
    rw [ofFloat_pack_unpacked s hclose.reduced he, isNegative_pack_unpacked s hclose.reduced he]
    exact ⟨rfl, hclose.nearest⟩

theorem neg (h : RoundedTo s q x) : RoundedTo (-s) q (-x) := by
  cases h with
  | infinite hq =>
    have hneg : -Float.ofModel (.pack (.infinity s)) = .ofModel (.pack (.infinity (-s))) := by
      cases s <;> rfl
    rw [hneg]
    exact .infinite hq
  | @finite d hclose he =>
    have hneg : -Float.ofModel (.pack (unpacked s d)) =
        .ofModel (.pack (Float.Model.pack (unpacked s d)).unpack.neg) := rfl
    have hunpacked : (unpacked s d).neg = unpacked (-s) d := by
      simp only [unpacked]
      split <;> rfl
    rw [hneg, unpack_pack_unpacked s hclose.reduced he, hunpacked]
    exact .finite hclose he

theorem eq_of_nearest {y : Float} (h : RoundedTo s q x) (hfinite : y.isFinite = true)
    (hsign : isNegative y = (s == .negative)) (hnearest : (Dyadic.ofFloat y).Nearest q) :
    x.isFinite = true ∧ x = y := by
  have hexponent := exponent_le_of_isFinite hfinite
  have hx := h.isFinite_iff.2 (hnearest.lt_overflow hexponent)
  obtain ⟨hsign', hnearest'⟩ := h.nearest hx
  exact ⟨hx, eq_of_ofFloat_eq (hnearest'.unique hnearest) (hsign'.trans hsign.symm)⟩

end RoundedTo

section arithmetic

variable {m n : Nat} {e f : Int}

theorem mul_close (s t : Sign) (hm : 0 < m) (hn : 0 < n) (hbits : 2 ^ 52 ≤ m * n) :
    ∃ d : Dyadic, d.Close (m * 2 ^ e * (n * 2 ^ f)) ∧
      UnpackedFloat.mul .binary64 (.finite s m e hm) (.finite t n f hn) = unpacked (s * t) d := by
  obtain ⟨d, hclose, hround⟩ :=
    roundWithAccuracy_close (e := e + f) (locates_exact (m * n)) (.inl hbits)
  have hvalue : ((m * n : Nat) : ℚ) * 2 ^ (e + f) = m * 2 ^ e * (n * 2 ^ f) := by
    rw [Nat.cast_mul, zpow_add₀ two_ne_zero, mul_mul_mul_comm]
  rw [hvalue] at hclose
  exact ⟨d, hclose, hround (s * t)⟩

theorem divCore_bits (hm : 0 < m) (hn : 0 < n) :
    2 ^ 52 ≤ (divCore .binary64 m e n f).1 ∨ (divCore .binary64 m e n f).2.1 ≤ -1074 := by
  simp only [divCore, targetExponent_binary64, totalExponent]
  generalize ht : min (e - f) (max (m.log2 + 1 + e - (n.log2 + 1 + f) - 53) (-1074)) = t
  by_cases hleast : t ≤ -1074
  · exact .inr hleast
  · refine .inl ?_
    have hshift : n.log2 + 53 ≤ m.log2 + (e - f - t).toNat := by omega
    rw [Nat.shiftLeft_eq, Nat.le_div_iff_mul_le hn]
    calc 2 ^ 52 * n ≤ 2 ^ 52 * 2 ^ (n.log2 + 1) :=
          Nat.mul_le_mul_left _ Nat.lt_log2_self.le
      _ = 2 ^ (n.log2 + 53) := by rw [← Nat.pow_add, Nat.add_comm]
      _ ≤ 2 ^ (m.log2 + (e - f - t).toNat) := Nat.pow_le_pow_right two_pos hshift
      _ = 2 ^ m.log2 * 2 ^ (e - f - t).toNat := Nat.pow_add _ _ _
      _ ≤ m * 2 ^ (e - f - t).toNat :=
          Nat.mul_le_mul_right _ (Nat.log2_self_le (Nat.ne_of_gt hm))

theorem divCore_value (hn : 0 < n) :
    ∃ num : Nat, num < n ∧ (divCore .binary64 m e n f).2.2 = accuracyOfFraction num n ∧
      (((divCore .binary64 m e n f).1 : ℚ) + num / n) * 2 ^ (divCore .binary64 m e n f).2.1 =
        m * 2 ^ e / (n * 2 ^ f) := by
  simp only [divCore]
  generalize Format.binary64.targetExponent (totalExponent m e - totalExponent n f) = target
  generalize ht : min (e - f) target = t
  refine ⟨_, Nat.mod_lt _ hn, rfl, ?_⟩
  have hpos : (n : ℚ) ≠ 0 := Nat.cast_ne_zero.2 (Nat.ne_of_gt hn)
  have hquotient (a : Nat) : ((a / n : Nat) : ℚ) + (a % n : Nat) / n = a / n := by
    rw [eq_div_iff hpos, add_mul, div_mul_cancel₀ _ hpos, ← Nat.cast_mul, ← Nat.cast_add,
      Nat.div_add_mod']
  have hexponent : ((e - f - t).toNat : Int) + t + f = e := by omega
  have hpow : (2 : ℚ) ^ (e - f - t).toNat * 2 ^ t * 2 ^ f = 2 ^ e := by
    rw [← zpow_natCast, ← zpow_add₀ two_ne_zero, ← zpow_add₀ two_ne_zero, hexponent]
  rw [hquotient, Nat.shiftLeft_eq, Nat.cast_mul, Nat.cast_pow, Nat.cast_ofNat, ← hpow]
  field_simp

theorem div_close (s t : Sign) (hm : 0 < m) (hn : 0 < n) :
    ∃ d : Dyadic, d.Close (m * 2 ^ e / (n * 2 ^ f)) ∧
      UnpackedFloat.div .binary64 (.finite s m e hm) (.finite t n f hn) = unpacked (s / t) d := by
  obtain ⟨num, hless, haccuracy, hvalue⟩ := @divCore_value m n e f hn
  have hlocates := locates_fraction (divCore .binary64 m e n f).1 hless
  rw [← haccuracy] at hlocates
  obtain ⟨d, hclose, hround⟩ := roundWithAccuracy_close hlocates (divCore_bits hm hn)
  rw [hvalue] at hclose
  exact ⟨d, hclose, hround (s / t)⟩

end arithmetic

section operands

variable {m k : Nat}

theorem ofNat_eq_unpacked (hm : 0 < m) (h : m < 2 ^ 53) :
    UnpackedFloat.ofNat .binary64 m =
      unpacked .positive ⟨m * 2 ^ (52 - m.log2), -(52 - m.log2 : Nat)⟩ := by
  have hlog := log2_of_lt h
  have hfilled : (m * 2 ^ (52 - m.log2)).log2 = 52 := by
    rw [log2_mul_two_pow (Nat.ne_of_gt hm)]
    omega
  have hpos : 0 < m * 2 ^ (52 - m.log2) := Nat.mul_pos hm (Nat.two_pow_pos _)
  have htarget : Format.binary64.targetExponent (totalExponent m 0) = -(52 - m.log2 : Nat) := by
    rw [targetExponent_binary64, totalExponent]
    omega
  have hfixed : Format.binary64.targetExponent
      (totalExponent (m * 2 ^ (52 - m.log2)) (-(52 - m.log2 : Nat))) = -(52 - m.log2 : Nat) := by
    rw [targetExponent_binary64, totalExponent, hfilled]
    omega
  have hround := roundWithAccuracy_two_pow .positive hpos hfixed 0
  rw [Nat.pow_zero, Nat.mul_one, Int.natCast_zero, Int.sub_zero] at hround
  have hcompare : compare (m : Int) 0 = .gt := Int.compare_eq_gt.2 (by omega)
  have hamount : (-(-((52 - m.log2 : Nat) : Int))).toNat = 52 - m.log2 := by omega
  simp only [UnpackedFloat.ofNat, UnpackedFloat.ofInt, UnpackedFloat.normalize, hcompare,
    UnpackedFloat.round, Int.toNat_natCast, htarget, decreaseExponent, Int.zero_sub, hamount,
    Nat.shiftLeft_eq, unpacked_of_pos hpos]
  exact hround

/-- A double that is a whole number exactly, with a filled mantissa. -/
structure Exactly (x : Float) (n : ℚ) (m : Nat) (e : Int) : Prop where
  filled : 2 ^ 52 ≤ m
  unpacks : parts x = unpacked .positive ⟨m, e⟩
  value : m * 2 ^ e = n

theorem exactly_toFloat (hm : 0 < m) (h : m < 2 ^ 53) :
    Exactly m.toUInt64.toFloat m (m * 2 ^ (52 - m.log2)) (-(52 - m.log2 : Nat)) := by
  have hlog := log2_of_lt h
  have hfilled : 2 ^ 52 ≤ m * 2 ^ (52 - m.log2) :=
    calc 2 ^ 52 = 2 ^ m.log2 * 2 ^ (52 - m.log2) := by rw [← Nat.pow_add, Nat.add_sub_of_le hlog]
      _ ≤ m * 2 ^ (52 - m.log2) :=
          Nat.mul_le_mul_right _ (Nat.log2_self_le (Nat.ne_of_gt hm))
  have hless : m * 2 ^ (52 - m.log2) < 2 ^ 53 :=
    calc m * 2 ^ (52 - m.log2) < 2 ^ (m.log2 + 1) * 2 ^ (52 - m.log2) :=
          Nat.mul_lt_mul_of_pos_right Nat.lt_log2_self (Nat.two_pow_pos _)
      _ = 2 ^ 53 := by rw [← Nat.pow_add]; congr 1; omega
  refine ⟨hfilled, ?_, ?_⟩
  · have hreduced : (⟨m * 2 ^ (52 - m.log2), -(52 - m.log2 : Nat)⟩ : Dyadic).Reduced := by
      refine ⟨hless, ?_, .inl hfilled⟩
      dsimp only
      omega
    have hunpack := unpack_pack_unpacked .positive hreduced (by dsimp only; omega)
    have hnat : m.toUInt64.toNat = m := UInt64.toNat_ofNat_of_lt' (h.trans (by decide))
    rw [← ofNat_eq_unpacked hm h] at hunpack ⊢
    rw [← hunpack]
    change (Float.Model.pack (UnpackedFloat.ofNat .binary64 m.toUInt64.toNat)).unpack = _
    rw [hnat]
  · rw [Nat.cast_mul, Nat.cast_pow, Nat.cast_ofNat, mul_assoc, ← zpow_natCast,
      ← zpow_add₀ two_ne_zero, Int.add_right_neg, zpow_zero, mul_one]

/-- A table entry for a power of ten, in a form that can be checked by calculation. -/
def IsTenPow (x : Float) (k : Nat) : Prop :=
  x.isFinite = true ∧ isNegative x = false ∧ 2 ^ 52 ≤ (Dyadic.ofFloat x).mantissa ∧
    -52 ≤ (Dyadic.ofFloat x).exponent ∧
    (Dyadic.ofFloat x).mantissa * 2 ^ ((Dyadic.ofFloat x).exponent + 52).toNat = 10 ^ k * 2 ^ 52

instance (x : Float) (k : Nat) : Decidable (IsTenPow x k) :=
  inferInstanceAs (Decidable (_ ∧ _ ∧ _ ∧ _ ∧ _))

theorem isTenPow_powersOfTen : ∀ k (_ : k < Float.exactlyRepresentablePowersOfTen.size),
    IsTenPow Float.exactlyRepresentablePowersOfTen[k] k := by
  decide +kernel

theorem IsTenPow.exactly (h : IsTenPow x k) :
    Exactly x (10 ^ k) (Dyadic.ofFloat x).mantissa (Dyadic.ofFloat x).exponent := by
  obtain ⟨hfinite, hsign, hfilled, hleast, hvalue⟩ := h
  refine ⟨hfilled, ?_, ?_⟩
  · rw [parts_of_isFinite hfinite, hsign, if_neg Bool.false_ne_true]
  · have hcast : ((Dyadic.ofFloat x).mantissa : ℚ) * 2 ^ ((Dyadic.ofFloat x).exponent + 52).toNat =
        10 ^ k * 2 ^ 52 := by
      exact_mod_cast hvalue
    have hexponent : (((Dyadic.ofFloat x).exponent + 52).toNat : Int) =
        (Dyadic.ofFloat x).exponent + 52 := by omega
    have hpos : (2 : ℚ) ^ (52 : Int) ≠ 0 := by positivity
    rw [← zpow_natCast, hexponent, zpow_add₀ two_ne_zero, ← mul_assoc] at hcast
    exact mul_right_cancel₀ hpos hcast

variable {y : Float} {a b : ℚ} {m' : Nat} {e e' : Int}

namespace Exactly

theorem pos (h : Exactly x a m e) : 0 < m :=
  Nat.lt_of_lt_of_le (Nat.two_pow_pos 52) h.filled

theorem mul (hx : Exactly x a m e) (hy : Exactly y b m' e') :
    RoundedTo .positive (a * b) (x * y) := by
  have hbits : 2 ^ 52 ≤ m * m' := Nat.le_trans hx.filled (Nat.le_mul_of_pos_right m hy.pos)
  obtain ⟨d, hclose, hmul⟩ := mul_close .positive .positive hx.pos hy.pos hbits
  rw [hx.value, hy.value] at hclose
  have hproduct : x * y =
      .ofModel (.pack (UnpackedFloat.mul .binary64 (parts x) (parts y))) := rfl
  rw [hproduct, hx.unpacks, hy.unpacks, unpacked_of_pos hx.pos, unpacked_of_pos hy.pos, hmul]
  exact .of_close hclose

theorem div (hx : Exactly x a m e) (hy : Exactly y b m' e') :
    RoundedTo .positive (a / b) (x / y) := by
  obtain ⟨d, hclose, hdiv⟩ := div_close .positive .positive hx.pos hy.pos
  rw [hx.value, hy.value] at hclose
  have hquotient : x / y =
      .ofModel (.pack (UnpackedFloat.div .binary64 (parts x) (parts y))) := rfl
  rw [hquotient, hx.unpacks, hy.unpacks, unpacked_of_pos hx.pos, unpacked_of_pos hy.pos, hdiv]
  exact .of_close hclose

end Exactly

end operands

section scientific

variable {m k : Nat} {e : Int}

theorem ten_pow_eq (h : (k : Int) = e) : (10 : ℚ) ^ k = 10 ^ e := by
  rw [← zpow_natCast, h]

theorem div_ten_pow_eq (h : (k : Int) = -e) (q : ℚ) : q / 10 ^ k = q * 10 ^ e := by
  rw [ten_pow_eq h, zpow_neg, div_inv_eq_mul]

theorem ofScientific_close (hm : 0 < m) (hgreatest : e ≤ 2048) (hleast : -(2048 + m.log2) ≤ e) :
    ∃ d : Dyadic, d.Close (m * 10 ^ e) ∧
      UnpackedFloat.ofScientific .binary64 m e = unpacked .positive d := by
  have hbits : (2 : Int) ^ Format.binary64.exponentBits = 2048 := rfl
  rw [UnpackedFloat.ofScientific, dif_neg (Nat.ne_of_gt hm), hbits, if_neg (by omega),
    if_neg (by omega)]
  have hpow (k : Nat) : 0 < 10 ^ k := Nat.pow_pos (by decide)
  by_cases he : 0 ≤ e
  · have hm' : 0 < m <<< 53 := Nat.shiftLeft_pos_iff.2 hm
    have hbits : 2 ^ 52 ≤ m <<< 53 * 10 ^ e.toNat := by
      rw [Nat.shiftLeft_eq]
      refine Nat.le_trans ?_ (Nat.le_mul_of_pos_right _ (hpow _))
      omega
    obtain ⟨d, hclose, hmul⟩ := mul_close (e := -53) (f := 0) .positive .positive hm' (hpow _) hbits
    have hvalue : ((m <<< 53 : Nat) : ℚ) * 2 ^ (-53 : Int) *
        ((10 ^ e.toNat : Nat) * 2 ^ (0 : Int)) = m * 10 ^ e := by
      have hone : (2 : ℚ) ^ 53 * 2 ^ (-53 : Int) = 1 := by norm_num
      rw [Nat.shiftLeft_eq, Nat.cast_mul, Nat.cast_pow, Nat.cast_pow, Nat.cast_ofNat,
        Nat.cast_ofNat, mul_assoc (m : ℚ), hone, mul_one, zpow_zero, mul_one,
        ten_pow_eq (Int.toNat_of_nonneg he)]
    rw [hvalue] at hclose
    rw [if_pos he]
    exact ⟨d, hclose, hmul⟩
  · obtain ⟨d, hclose, hdiv⟩ :=
      div_close (e := 0) (f := 0) .positive .positive hm (hpow (-e).toNat)
    have hvalue : (m : ℚ) * 2 ^ (0 : Int) / ((10 ^ (-e).toNat : Nat) * 2 ^ (0 : Int)) =
        m * 10 ^ e := by
      rw [Nat.cast_pow, Nat.cast_ofNat, zpow_zero, mul_one, mul_one]
      exact div_ten_pow_eq (Int.toNat_of_nonneg (by omega)) m
    rw [hvalue] at hclose
    rw [if_neg he]
    exact ⟨d, hclose, hdiv⟩

/-- Reading by a table entry or by whole numbers, a numeral is rounded once. -/
theorem ofScientific_rounded (hm : 0 < m) (hgreatest : e ≤ 2048)
    (hleast : -(2048 + m.log2) ≤ e) :
    RoundedTo .positive (m * 10 ^ e) (Float.ofScientific m (e < 0) e.natAbs) := by
  rw [Float.ofScientific]
  split
  · next hsmall =>
    obtain ⟨hless, hk⟩ := hsmall
    have hoperand := exactly_toFloat hm hless
    have hpower := (isTenPow_powersOfTen e.natAbs (Nat.lt_succ_of_le hk)).exactly
    dsimp only
    by_cases he : e < 0
    · have hexponent : (e.natAbs : Int) = -e := by omega
      rw [if_pos (decide_eq_true he), ← div_ten_pow_eq hexponent]
      exact hoperand.div hpower
    · have hexponent : (e.natAbs : Int) = e := by omega
      rw [if_neg (by rwa [decide_eq_true_iff]), ← ten_pow_eq hexponent]
      exact hoperand.mul hpower
  · have hexponent : (if decide (e < 0) = true then Int.negOfNat e.natAbs else Int.ofNat e.natAbs) =
        e := by
      split
      · next he =>
        rw [decide_eq_true_iff] at he
        rw [Int.negOfNat_eq, Int.ofNat_eq_natCast]
        omega
      · next he =>
        rw [decide_eq_true_iff] at he
        rw [Int.ofNat_eq_natCast]
        omega
    obtain ⟨d, hclose, hread⟩ := ofScientific_close hm hgreatest hleast
    dsimp only
    rw [hexponent, Float.Model.ofScientific, hread]
    exact .of_close hclose

end scientific

section cutoffs

variable {m : Nat} {e : Int}

theorem close_zero (hq : 0 ≤ q) (h : q ≤ 2 ^ (-1075 : Int)) : (⟨0, -1074⟩ : Dyadic).Close q := by
  have hhalf : (2 : ℚ) ^ (-1074 : Int) / 2 = 2 ^ (-1075 : Int) := by
    rw [div_eq_iff two_ne_zero, ← zpow_add_one₀ two_ne_zero]
    rfl
  have hpos : (0 : ℚ) < 2 ^ (-1075 : Int) := by positivity
  have hzero : Nat.cast 0 * (2 : ℚ) ^ (-1074 : Int) = 0 := by rw [Nat.cast_zero, zero_mul]
  refine ⟨⟨by decide, le_rfl, .inr rfl⟩, ?_, ?_, fun _ => rfl, fun hpower => ?_⟩
  · simp only [Dyadic.value, Dyadic.unit, hzero, hhalf]
    linarith
  · simp only [Dyadic.value, Dyadic.unit, hzero, hhalf]
    linarith
  · norm_num at hpower

theorem rounded_zero (hq : 0 ≤ q) (h : q ≤ 2 ^ (-1075 : Int)) : RoundedTo .positive q 0.0 := by
  have hzero : (0.0 : Float) = .ofModel (.pack (unpacked .positive ⟨0, -1074⟩)) := rfl
  rw [hzero]
  exact .of_close (close_zero hq h)

/-- Beyond the greatest exponent that is read even one digit is out of range. -/
theorem overflow_le_of_exponent (hm : 0 < m) (he : 400 < e) :
    Dyadic.overflow ≤ m * 10 ^ e := by
  have hdigit : (1 : ℚ) ≤ m := Nat.one_le_cast.2 hm
  calc Dyadic.overflow ≤ 2 ^ 54 * 2 ^ 970 :=
        mul_le_mul_of_nonneg_right (sub_le_self _ zero_le_one) (by positivity)
    _ = 2 ^ 1024 := (pow_add 2 54 970).symm
    _ ≤ 2 ^ (3 * 401) := pow_le_pow_right₀ one_le_two (by decide)
    _ = (2 ^ 3) ^ 401 := pow_mul 2 3 401
    _ ≤ 10 ^ 401 := pow_le_pow_left₀ (by norm_num) (by norm_num) 401
    _ = 10 ^ (401 : Int) := (zpow_natCast 10 401).symm
    _ ≤ 10 ^ e := zpow_le_zpow_right₀ (by norm_num) he
    _ ≤ m * 10 ^ e := le_mul_of_one_le_left (by positivity) hdigit

/-- Below the least exponent that is read all the digits do not make half of the least double. -/
theorem le_of_exponent (he : e < -(401 + m.log2 : Nat)) : (m * 10 ^ e : ℚ) ≤ 2 ^ (-1075 : Int) := by
  have hdigits : (m : ℚ) ≤ 2 ^ (m.log2 + 1 : Int) := by
    have hcast : (m : ℚ) ≤ (2 ^ (m.log2 + 1) : Nat) := Nat.cast_le.2 Nat.lt_log2_self.le
    rw [Nat.cast_pow, Nat.cast_ofNat, ← zpow_natCast, Nat.cast_add, Nat.cast_one] at hcast
    exact hcast
  have hpower : (10 : ℚ) ^ e ≤ 2 ^ (-(1076 + m.log2) : Int) :=
    ten_zpow_le_two_zpow (by omega) (by omega)
  calc (m * 10 ^ e : ℚ) ≤ 2 ^ (m.log2 + 1 : Int) * 2 ^ (-(1076 + m.log2) : Int) :=
        mul_le_mul hdigits hpower (by positivity) (by positivity)
    _ = 2 ^ (-1075 : Int) := by
        rw [← zpow_add₀ two_ne_zero]
        congr 1
        omega

theorem nearestDouble_rounded (m : Nat) (e : Int) :
    RoundedTo .positive (m * 10 ^ e) (nearestDouble m e) := by
  rw [nearestDouble]
  split
  · next hzero =>
    rw [hzero, Nat.cast_zero, zero_mul]
    exact rounded_zero le_rfl (by positivity)
  · next hne =>
    have hm : 0 < m := Nat.pos_of_ne_zero hne
    split
    · next hgreat =>
      have hinfinite : (1.0 / 0.0 : Float) = .ofModel (.pack (.infinity .positive)) := rfl
      rw [hinfinite]
      exact .infinite (overflow_le_of_exponent hm hgreat)
    · next hgreatest =>
      split
      · next hsmall => exact rounded_zero (by positivity) (le_of_exponent hsmall)
      · next hleast => exact ofScientific_rounded hm (by omega) (by omega)

end cutoffs

namespace Numeral

variable {n : Numeral} {x : Float}

def magnitude (n : Numeral) : ℚ :=
  n.digits * 10 ^ n.exponent

/-- A finite double of the sign of a numeral, and no double is nearer to the numeral. -/
structure RoundsTo (n : Numeral) (x : Float) : Prop where
  finite : x.isFinite = true
  sign : isNegative x = n.negative
  nearest : (Dyadic.ofFloat x).Nearest n.magnitude

theorem toFloat_rounded (n : Numeral) :
    RoundedTo (if n.negative then .negative else .positive) n.magnitude n.toFloat := by
  have hmagnitude := nearestDouble_rounded n.digits n.exponent
  rw [toFloat]
  cases n.negative with
  | false => exact hmagnitude
  | true => exact hmagnitude.neg

theorem isFinite_toFloat_iff : n.toFloat.isFinite = true ↔ n.magnitude < Dyadic.overflow :=
  n.toFloat_rounded.isFinite_iff

/-- A numeral is read to the double that it rounds to, if there is one. -/
theorem roundsTo_iff : n.RoundsTo x ↔ n.toFloat.isFinite = true ∧ n.toFloat = x := by
  have hrounded := n.toFloat_rounded
  have hsign : ((if n.negative then Sign.negative else Sign.positive) == .negative) =
      n.negative := by
    cases n.negative <;> rfl
  constructor
  · intro h
    exact hrounded.eq_of_nearest h.finite (h.sign.trans hsign.symm) h.nearest
  · rintro ⟨hfinite, rfl⟩
    obtain ⟨hnegative, hnearest⟩ := hrounded.nearest hfinite
    exact ⟨hfinite, hnegative.trans hsign, hnearest⟩

end Numeral

end Rubric.Decimal
