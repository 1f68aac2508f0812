import Mathlib
import Rubric.Engine

namespace Rubric

open Float.Model
open Float.Model.UnpackedFloat

section compare

theorem swap_compare (x y : UnpackedFloat) : (x.compare y).map Ordering.swap = y.compare x := by
  have hint (a b : Int) : (compare a b).swap = compare b a := Std.OrientedCmp.eq_swap.symm
  have hnat (a b : Nat) : (compare a b).swap = compare b a := Std.OrientedCmp.eq_swap.symm
  cases x with
  | notANumber => cases y <;> rfl
  | infinity s =>
    cases y with
    | infinity t => cases s <;> cases t <;> rfl
    | _ => cases s <;> rfl
  | zero s =>
    cases y with
    | notANumber | zero t => rfl
    | infinity t | finite t => cases t <;> rfl
  | finite s m e hm =>
    cases y with
    | notANumber => rfl
    | zero t => cases s <;> rfl
    | infinity t => cases t <;> rfl
    | finite t n f hn =>
      cases s <;> cases t <;> simp [UnpackedFloat.compare, Ordering.swap_then, hint, hnat]

theorem compare_eq_none_iff {x y : UnpackedFloat} :
    x.compare y = none ↔ x = .notANumber ∨ y = .notANumber := by
  fun_cases UnpackedFloat.compare x y <;> simp_all

end compare

section pack

theorem packComponents_ne_packedNaN {s : Sign} {e : BitVec Format.binary64.exponentBits}
    {m : BitVec Format.binary64.mantissaBitsWithoutImplicit} (h : e.toNat < 2047 ∨ m = 0) :
    packComponents .binary64 s e m ≠ packedNaN .binary64 := by
  intro heq
  rcases h with he | hm
  · have hexponent := congrArg unpackExponent heq
    rw [packedNaN, unpackExponent_packComponents, unpackExponent_packComponents] at hexponent
    rw [hexponent] at he
    exact absurd he (by decide)
  · have hmantissa := congrArg unpackMantissa heq
    rw [packedNaN, unpackMantissa_packComponents, unpackMantissa_packComponents, hm] at hmantissa
    exact absurd hmantissa (by decide)

theorem pack_ne_packedNaN {u : UnpackedFloat} (h : u ≠ .notANumber) :
    UnpackedFloat.pack .binary64 u ≠ packedNaN .binary64 := by
  cases u with
  | notANumber => exact absurd rfl h
  | infinity s => exact packComponents_ne_packedNaN (.inr rfl)
  | zero s => exact packComponents_ne_packedNaN (.inr rfl)
  | finite s m e hm =>
    simp only [UnpackedFloat.pack]
    split
    · exact packComponents_ne_packedNaN (.inr rfl)
    · next hsmall =>
      have hbits : 2 ^ Format.binary64.exponentBits = 2048 := rfl
      rw [hbits] at hsmall
      split
      · refine packComponents_ne_packedNaN (.inl ?_)
        refine Nat.lt_of_le_of_lt (Nat.mod_le _ _) ?_
        omega
      · exact packComponents_ne_packedNaN (.inl (by decide))

end pack

def parts (x : Float) : UnpackedFloat :=
  x.toModel.unpack

theorem lt_iff_compare {x y : Float} : x < y ↔ (parts x).compare (parts y) = some .lt := by
  have h : x < y ↔ (parts x).lt (parts y) = true := decide_eq_true_iff
  rw [h, UnpackedFloat.lt, beq_iff_eq]

theorem le_iff_compare {x y : Float} :
    x ≤ y ↔ ∃ o, (parts x).compare (parts y) = some o ∧ o.isLE = true := by
  have h : x ≤ y ↔ (parts x).le (parts y) = true := decide_eq_true_iff
  rw [h, UnpackedFloat.le, Option.any_eq_true]

theorem lt_or_le {x y : Float} (hx : parts x ≠ .notANumber) (hy : parts y ≠ .notANumber) :
    x < y ∨ y ≤ x := by
  rw [lt_iff_compare, le_iff_compare]
  cases hc : (parts x).compare (parts y) with
  | none => exact absurd (compare_eq_none_iff.1 hc) (not_or_intro hx hy)
  | some o =>
    have hswap := swap_compare (parts x) (parts y)
    rw [hc, Option.map_some] at hswap
    cases o with
    | lt => exact .inl rfl
    | eq | gt => exact .inr ⟨_, hswap.symm, rfl⟩

theorem parts_div (x y : Float) :
    parts (x / y) = UnpackedFloat.unpack .binary64
      (UnpackedFloat.pack .binary64 (UnpackedFloat.div .binary64 (parts x) (parts y))) := rfl

theorem roundWithAccuracy_ne_notANumber {spec : Format} {s : Sign} {m : Nat} {e : Int}
    {a : Accuracy} : roundWithAccuracy spec s m e a ≠ .notANumber := by
  simp only [roundWithAccuracy]
  split <;> exact UnpackedFloat.noConfusion

theorem parts_div_ne_notANumber {x y : Float} (hx : x.isFinite = true) (hy : 0.0 < y) :
    parts (x / y) ≠ .notANumber := by
  rw [parts_div, Ne, unpack_eq_notANumber_iff_of_valid valid_pack]
  apply pack_ne_packedNaN
  have hfinite : (parts x).isFinite = true := hx
  rw [lt_iff_compare] at hy
  have hzero : parts 0.0 = .zero .positive := rfl
  rw [hzero] at hy
  cases hpx : parts x with
  | notANumber => rw [hpx] at hfinite; cases hfinite
  | infinity s => rw [hpx] at hfinite; cases hfinite
  | zero s =>
    cases hpy : parts y with
    | notANumber => rw [hpy] at hy; cases hy
    | zero t => rw [hpy] at hy; cases hy
    | infinity t | finite t => exact UnpackedFloat.noConfusion
  | finite s m e hm =>
    cases hpy : parts y with
    | notANumber => rw [hpy] at hy; cases hy
    | zero t | infinity t => exact UnpackedFloat.noConfusion
    | finite t => exact roundWithAccuracy_ne_notANumber

theorem parts_ne_notANumber_of_isFinite {x : Float} (h : x.isFinite = true) :
    parts x ≠ .notANumber := by
  intro hx
  have hfinite : (parts x).isFinite = true := h
  rw [hx] at hfinite
  cases hfinite

theorem isFinite_of_readNumber {text : String} {x : Float}
    (h : (readNumber text).toOption = some x) : x.isFinite = true := by
  unfold readNumber at h
  split at h
  · split at h
    · next hfinite => exact Option.some.inj h ▸ hfinite
    · cases h
  · cases h

namespace Engine

theorem clampUnit_mem_unit {x : Float} (h : parts x ≠ .notANumber) :
    0.0 ≤ clampUnit x ∧ clampUnit x ≤ 1.0 := by
  unfold clampUnit
  split
  · decide
  · next hneg =>
    split
    · decide
    · next hgreat =>
      have hzero : parts 0.0 ≠ .notANumber := parts_ne_notANumber_of_isFinite (by decide)
      have hone : parts 1.0 ≠ .notANumber := parts_ne_notANumber_of_isFinite (by decide)
      exact ⟨(lt_or_le h hzero).resolve_left hneg, (lt_or_le hone h).resolve_left hgreat⟩

end Engine

end Rubric
