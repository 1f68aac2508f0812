import Rubric.Proofs.Rounding

namespace Rubric.Decimal

open Float.Model
open Float.Model.UnpackedFloat

variable {s : Sign} {d : Dyadic} {x : Float}

theorem toNat_packComponents (s : Sign) (e : BitVec Format.binary64.exponentBits)
    (m : BitVec Format.binary64.mantissaBitsWithoutImplicit) :
    (packComponents .binary64 s e m).toNat =
      s.toBitVec.toNat * 2 ^ 63 + e.toNat * 2 ^ 52 + m.toNat := by
  have he : e.toNat < 2 ^ 11 := e.isLt
  have hm : m.toNat < 2 ^ 52 := m.isLt
  rw [packComponents, BitVec.toNat_append, BitVec.toNat_append, ← Nat.shiftLeft_add_eq_or_of_lt he,
    ← Nat.shiftLeft_add_eq_or_of_lt hm, Nat.shiftLeft_eq, Nat.shiftLeft_eq]
  dsimp only
  omega

theorem toNat_unpackExponent (b : BitVec Format.binary64.numBits) :
    (unpackExponent b).toNat = b.toNat / 2 ^ 52 % 2 ^ 11 := by
  rw [unpackExponent_def, BitVec.extractLsb'_toNat, Nat.shiftRight_eq_div_pow]

/-- The fields that a double in range is packed into. -/
structure PackedAs (d : Dyadic) (e : BitVec Format.binary64.exponentBits)
    (m : BitVec Format.binary64.mantissaBitsWithoutImplicit) : Prop where
  finite : e.toNat ≤ 2046
  fields : (e.toNat = 0 ∧ m.toNat = d.mantissa ∧ d.exponent = -1074) ∨
    (e.toNat ≠ 0 ∧ 2 ^ 52 + m.toNat = d.mantissa ∧ e.toNat - 1075 = d.exponent)

theorem pack_unpacked (s : Sign) (h : d.Reduced) (he : d.exponent ≤ 971) :
    ∃ e m, UnpackedFloat.pack .binary64 (unpacked s d) = packComponents .binary64 s e m ∧
      PackedAs d e m := by
  have hleast := h.least
  have hless := h.mantissa
  rw [unpacked]
  split
  · next hzero =>
    have hexponent := h.filled.resolve_left (by omega)
    exact ⟨0, 0, rfl, Nat.zero_le _, .inl ⟨rfl, hzero.symm, hexponent⟩⟩
  · next hne =>
    have hbiased : (d.exponent + Format.binary64.exponentBias +
        Format.binary64.mantissaBitsWithoutImplicit).toNat = (d.exponent + 1075).toNat := by
      change (d.exponent + 1023 + 52).toNat = _
      omega
    have hrange : ¬2 ^ Format.binary64.exponentBits ≤ (d.exponent + 1075).toNat + 1 := by
      change ¬2 ^ 11 ≤ _
      omega
    simp only [UnpackedFloat.pack, hbiased, if_neg hrange]
    have hbits : Format.binary64.mantissaBits = 53 := rfl
    rw [hbits]
    by_cases hfilled : 2 ^ 52 ≤ d.mantissa
    · have hlog := log2_of_filled hless hfilled
      rw [if_pos (by omega)]
      refine ⟨_, _, rfl, ?_, .inr ⟨?_, ?_, ?_⟩⟩ <;> rw [BitVec.toNat_ofNat] <;> dsimp only
      all_goals omega
    · have hlog : d.mantissa.log2 < 52 := (Nat.log2_lt hne).2 (by omega)
      have hexponent := h.filled.resolve_left hfilled
      rw [if_neg (by omega)]
      refine ⟨_, _, rfl, Nat.zero_le _, .inl ⟨rfl, ?_, hexponent⟩⟩
      rw [BitVec.toNat_ofNat]
      dsimp only
      omega

theorem pack_unpacked_of_lt (s : Sign) (h : d.Reduced) (he : 971 < d.exponent) :
    UnpackedFloat.pack .binary64 (unpacked s d) = packedInfinity .binary64 s := by
  have hfilled := h.filled.resolve_right (by omega)
  have hne : d.mantissa ≠ 0 := by omega
  have hrange : 2 ^ Format.binary64.exponentBits ≤ (d.exponent + Format.binary64.exponentBias +
        Format.binary64.mantissaBitsWithoutImplicit).toNat + 1 := by
    change 2 ^ 11 ≤ (d.exponent + 1023 + 52).toNat + 1
    omega
  rw [unpacked, dif_neg hne]
  exact if_pos hrange

theorem unpacked_of_pos {m : Nat} {e : Int} (hm : 0 < m) :
    unpacked s ⟨m, e⟩ = .finite s m e hm :=
  dif_neg (Nat.ne_of_gt hm)

theorem PackedAs.unpack {e : BitVec Format.binary64.exponentBits}
    {m : BitVec Format.binary64.mantissaBitsWithoutImplicit} (h : PackedAs d e m) (s : Sign) :
    UnpackedFloat.unpack .binary64 (packComponents .binary64 s e m) = unpacked s d := by
  obtain ⟨mantissa, exponent⟩ := d
  have hfinite := h.finite
  have hnot : e ≠ -1#_ := by
    intro heq
    rw [heq] at hfinite
    exact absurd hfinite (by decide)
  simp only [UnpackedFloat.unpack, unpackExponent_packComponents, unpackMantissa_packComponents,
    unpackSign_packComponents, Sign.ofBitVec_toBitVec, if_neg hnot]
  obtain ⟨hzero, rfl, rfl⟩ | ⟨hne, hmantissa, hexponent⟩ := h.fields
  · have he : e = 0#_ := BitVec.eq_of_toNat_eq hzero
    rw [if_pos he, hzero]
    split
    · next hm =>
      rw [hm]
      rfl
    · exact (unpacked_of_pos _).symm
  · have he : e ≠ 0#_ := by
      rintro rfl
      exact hne rfl
    have hone := @toNat_one_append_unpackMantissa (packComponents .binary64 s e m)
    rw [unpackMantissa_packComponents, hmantissa] at hone
    dsimp only at hone hexponent
    rw [if_neg he]
    subst hone hexponent
    exact (unpacked_of_pos _).symm

/-- A double in range is unpacked as it was packed. -/
theorem unpack_pack_unpacked (s : Sign) (h : d.Reduced) (he : d.exponent ≤ 971) :
    (Float.Model.pack (unpacked s d)).unpack = unpacked s d := by
  obtain ⟨e, m, hpack, hfields⟩ := pack_unpacked s h he
  have hunpack := hfields.unpack s
  rw [← hpack] at hunpack
  exact hunpack

theorem toBits_pack_unpacked (s : Sign) (h : d.Reduced) (he : d.exponent ≤ 971) :
    ∃ e m, (Float.ofModel (.pack (unpacked s d))).toBits.toNat =
      s.toBitVec.toNat * 2 ^ 63 + e.toNat * 2 ^ 52 + m.toNat ∧ PackedAs d e m := by
  obtain ⟨e, m, hpack, hfields⟩ := pack_unpacked s h he
  refine ⟨e, m, ?_, hfields⟩
  rw [← toNat_packComponents, ← hpack]
  rfl

theorem ofFloat_pack_unpacked (s : Sign) (h : d.Reduced) (he : d.exponent ≤ 971) :
    Dyadic.ofFloat (.ofModel (.pack (unpacked s d))) = d := by
  obtain ⟨e, m, hbits, hfields⟩ := toBits_pack_unpacked s h he
  have hm : m.toNat < 2 ^ 52 := m.isLt
  have hfinite := hfields.finite
  obtain ⟨mantissa, exponent⟩ := d
  rw [Dyadic.ofFloat]
  simp only [hbits, Nat.pow_eq, Nat.reducePow]
  obtain ⟨hzero, hmantissa, hexponent⟩ | ⟨hne, hmantissa, hexponent⟩ := hfields.fields <;>
    dsimp only at hmantissa hexponent
  · rw [if_pos (by omega), Dyadic.mk.injEq]
    omega
  · rw [if_neg (by omega), Dyadic.mk.injEq]
    omega

theorem isNegative_pack_unpacked (s : Sign) (h : d.Reduced) (he : d.exponent ≤ 971) :
    isNegative (.ofModel (.pack (unpacked s d))) = (s == .negative) := by
  obtain ⟨e, m, hbits, hfields⟩ := toBits_pack_unpacked s h he
  have hm : m.toNat < 2 ^ 52 := m.isLt
  have hfinite := hfields.finite
  rw [isNegative, hbits]
  cases s with
  | positive =>
    have hsign : Sign.positive.toBitVec.toNat = 0 := rfl
    rw [hsign]
    refine decide_eq_false ?_
    rw [Nat.pow_eq]
    omega
  | negative =>
    have hsign : Sign.negative.toBitVec.toNat = 1 := rfl
    rw [hsign]
    refine decide_eq_true ?_
    rw [Nat.pow_eq]
    omega

theorem exponent_le_of_isFinite (h : x.isFinite = true) : (Dyadic.ofFloat x).exponent ≤ 971 := by
  by_contra hgreat
  have hexponent : @unpackExponent .binary64 x.toBits.toBitVec = -1#_ := by
    refine BitVec.eq_of_toNat_eq ?_
    have hbits := toNat_unpackExponent x.toBits.toBitVec
    have hsame : x.toBits.toBitVec.toNat = x.toBits.toNat := rfl
    have hall : (-1#_ : BitVec Format.binary64.exponentBits).toNat = 2047 := rfl
    rw [hbits, hsame, hall]
    rw [Dyadic.ofFloat] at hgreat
    simp only [Nat.pow_eq, Nat.reducePow] at hgreat
    split at hgreat
    · dsimp only at hgreat
      omega
    · dsimp only at hgreat
      omega
  have hparts : (UnpackedFloat.unpack .binary64 x.toBits.toBitVec).isFinite = true := h
  simp only [UnpackedFloat.unpack, if_pos hexponent] at hparts
  split at hparts
  · cases hparts
  · cases hparts

theorem parts_of_isFinite (h : x.isFinite = true) :
    parts x = unpacked (if isNegative x then .negative else .positive) (Dyadic.ofFloat x) := by
  have hd := (ofFloat_canonical x).reduced
  have he := exponent_le_of_isFinite h
  generalize hs : (if isNegative x then Sign.negative else Sign.positive) = s
  have hsign : isNegative x = (s == .negative) := by
    rw [← hs]
    cases isNegative x <;> rfl
  have hpacked : Float.ofModel (.pack (unpacked s (Dyadic.ofFloat x))) = x := by
    apply eq_of_ofFloat_eq
    · exact ofFloat_pack_unpacked s hd he
    · rw [isNegative_pack_unpacked s hd he, hsign]
  calc parts x = parts (.ofModel (.pack (unpacked s (Dyadic.ofFloat x)))) := by rw [hpacked]
    _ = unpacked s (Dyadic.ofFloat x) := unpack_pack_unpacked s hd he

end Rubric.Decimal
