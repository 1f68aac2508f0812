import Rubric.Proofs.DecimalText
import Rubric.Proofs.RoundingInterval
import Rubric.Proofs.UnitInterval

namespace Rubric

open Float.Model

theorem toBits_injective : Function.Injective Float.toBits := by
  rintro ⟨⟨b, hb⟩⟩ ⟨⟨c, hc⟩⟩ h
  cases (show b = c from h)
  rfl

theorem ofModel_pack_parts (x : Float) : Float.ofModel (.pack (parts x)) = x := by
  refine toBits_injective (UInt64.toBitVec_inj.1 ?_)
  exact UnpackedFloat.pack_unpack_of_valid x.toModel.valid

theorem eq_of_parts_eq {x y : Float} (h : parts x = parts y) : x = y := by
  rw [← ofModel_pack_parts x, h, ofModel_pack_parts]

namespace Decimal

variable {x y : Float}

theorem ofFloat_canonical (x : Float) : (Dyadic.ofFloat x).Canonical := by
  have hbits : x.toBits.toNat < 2 ^ 64 := x.toBits.toNat_lt
  rw [Dyadic.ofFloat]
  simp only [Nat.pow_eq, Nat.reducePow]
  split
  · constructor <;> dsimp only <;> omega
  · constructor <;> dsimp only <;> omega

theorem eq_of_ofFloat_eq (h : Dyadic.ofFloat x = Dyadic.ofFloat y)
    (hsign : isNegative x = isNegative y) : x = y := by
  have hx : x.toBits.toNat < 2 ^ 64 := x.toBits.toNat_lt
  have hy : y.toBits.toNat < 2 ^ 64 := y.toBits.toNat_lt
  refine toBits_injective (UInt64.toNat_inj.1 ?_)
  simp only [isNegative, decide_eq_decide, Nat.pow_eq, Nat.reducePow] at hsign
  simp only [Dyadic.ofFloat, Nat.pow_eq, Nat.reducePow] at h
  split at h <;> split at h <;> obtain ⟨hm, he⟩ := Dyadic.mk.inj h <;> omega

theorem parts_of_isNaN (h : x.isNaN = true) : parts x = .notANumber := by
  have hnan : (parts x).isNaN = true := h
  cases hx : parts x with
  | notANumber => rfl
  | _ => rw [hx] at hnan; cases hnan

theorem parts_of_isInf (h : x.isInf = true) :
    parts x = .infinity (if isNegative x then .negative else .positive) := by
  have hinf : (parts x).isInf = true := h
  cases hx : parts x with
  | infinity s =>
    rw [← ofModel_pack_parts x, hx]
    cases s with
    | positive => rfl
    | negative => rfl
  | _ => rw [hx] at hinf; cases hinf

/-- The text of a double without its sign. -/
def magnitudeText (x : Float) : List Char :=
  if x.isInf then ['i', 'n', 'f']
  else if (Dyadic.ofFloat x).mantissa = 0 then ['0']
  else (Dyadic.ofFloat x).shortest.positional

theorem text_of_not_nan (h : x.isNaN = false) :
    (text x).toList = (if isNegative x then ['-'] else []) ++ magnitudeText x := by
  rw [text, h, if_neg Bool.false_ne_true]
  exact String.toList_ofList

theorem magnitudeText_of_inf (h : x.isInf = true) : magnitudeText x = ['i', 'n', 'f'] :=
  if_pos h

theorem magnitudeText_of_zero (hinf : x.isInf = false) (h : (Dyadic.ofFloat x).mantissa = 0) :
    magnitudeText x = ['0'] := by
  rw [magnitudeText, hinf, if_neg Bool.false_ne_true, if_pos h]

theorem magnitudeText_of_ne_zero (hinf : x.isInf = false) (h : (Dyadic.ofFloat x).mantissa ≠ 0) :
    magnitudeText x = (Dyadic.ofFloat x).shortest.positional := by
  rw [magnitudeText, hinf, if_neg Bool.false_ne_true, if_neg h]

theorem magnitudeText_eq_cons (x : Float) :
    ∃ c cs, magnitudeText x = c :: cs ∧ if x.isInf then c = 'i' else c.isDigit = true := by
  cases hinf : x.isInf with
  | true => exact ⟨_, _, magnitudeText_of_inf hinf, rfl⟩
  | false =>
    by_cases h : (Dyadic.ofFloat x).mantissa = 0
    · exact ⟨_, _, magnitudeText_of_zero hinf h, rfl⟩
    · rw [magnitudeText_of_ne_zero hinf h]
      exact (Dyadic.ofFloat x).shortest.positional_eq_cons

theorem magnitudeText_ne_cons {c : Char} (hi : c ≠ 'i') (hdigit : c.isDigit = false)
    (cs : List Char) : magnitudeText x ≠ c :: cs := by
  intro h
  obtain ⟨d, ds, hd, hkind⟩ := magnitudeText_eq_cons x
  obtain ⟨rfl, -⟩ := List.cons_eq_cons.1 (h.symm.trans hd)
  split at hkind
  · exact hi hkind
  · rw [hdigit] at hkind
    cases hkind

theorem Scaled.value_eq (s : Scaled) :
    s.value = (s.digits * 10 ^ s.scale.toNat : Nat) * 10 ^ min s.scale 0 := by
  rw [Scaled.value, Nat.cast_mul, Nat.cast_pow, Nat.cast_ofNat, mul_assoc, ← zpow_natCast,
    ← zpow_add₀ (by norm_num)]
  congr 2
  omega

theorem Scaled.value_eq_of_positional_eq {s t : Scaled} (h : s.positional = t.positional) :
    s.value = t.value := by
  have hread := s.ofChars?_positional
  rw [h, t.ofChars?_positional] at hread
  obtain ⟨-, hdigits, hexponent⟩ := Numeral.mk.inj (Option.some.inj hread)
  rw [s.value_eq, t.value_eq, hdigits, hexponent]

theorem shortest_digits_ne_zero {d : Dyadic} (h : d.Canonical) (hd : d.mantissa ≠ 0) :
    d.shortest.digits ≠ 0 := by
  intro hzero
  have hlow := (Dyadic.interval_contains_shortest h hd).low
  have hwide := d.interval_low
  rw [Scaled.value, hzero, Nat.cast_zero, zero_mul] at hlow
  have hunit : (0 : ℚ) < 2 ^ d.interval.exponent := by positivity
  have hpositive : (0 : ℚ) < d.interval.low := by
    rw [Nat.cast_pos]
    omega
  exact absurd hlow (not_le.2 (mul_pos hpositive hunit))

theorem positional_shortest_ne_zero {d : Dyadic} (h : d.Canonical) (hd : d.mantissa ≠ 0) :
    d.shortest.positional ≠ ['0'] := by
  intro hzero
  have hread := d.shortest.ofChars?_positional
  have hread' : Numeral.ofChars? ['0'] = some ⟨false, 0, 0⟩ := rfl
  rw [hzero, hread'] at hread
  obtain ⟨-, hdigits, -⟩ := Numeral.mk.inj (Option.some.inj hread)
  refine shortest_digits_ne_zero h hd ((Nat.mul_eq_zero.1 hdigits.symm).resolve_right ?_)
  exact Nat.ne_of_gt (Nat.pow_pos (by decide))

theorem Dyadic.Canonical.eq_zero {d : Dyadic} (h : d.Canonical) (hd : d.mantissa = 0) :
    d = ⟨0, -1074⟩ := by
  have he : d.exponent = -1074 := h.filled.resolve_left (by omega)
  cases d
  cases hd
  cases he
  rfl

theorem ofFloat_eq_of_magnitudeText_eq (hx : x.isInf = false) (hy : y.isInf = false)
    (h : magnitudeText x = magnitudeText y) : Dyadic.ofFloat x = Dyadic.ofFloat y := by
  have hcx := ofFloat_canonical x
  have hcy := ofFloat_canonical y
  by_cases hzx : (Dyadic.ofFloat x).mantissa = 0
  · by_cases hzy : (Dyadic.ofFloat y).mantissa = 0
    · rw [hcx.eq_zero hzx, hcy.eq_zero hzy]
    · rw [magnitudeText_of_zero hx hzx, magnitudeText_of_ne_zero hy hzy] at h
      exact absurd h.symm (positional_shortest_ne_zero hcy hzy)
  · by_cases hzy : (Dyadic.ofFloat y).mantissa = 0
    · rw [magnitudeText_of_ne_zero hx hzx, magnitudeText_of_zero hy hzy] at h
      exact absurd h (positional_shortest_ne_zero hcx hzx)
    · rw [magnitudeText_of_ne_zero hx hzx, magnitudeText_of_ne_zero hy hzy] at h
      exact Dyadic.eq_of_shortest_eq hcx hcy hzx hzy (Scaled.value_eq_of_positional_eq h)

theorem isInf_eq_of_magnitudeText_eq (h : magnitudeText x = magnitudeText y) :
    x.isInf = y.isInf := by
  obtain ⟨c, cs, hc, hkind⟩ := magnitudeText_eq_cons x
  obtain ⟨d, ds, hd, hkind'⟩ := magnitudeText_eq_cons y
  rw [hc, hd] at h
  obtain ⟨rfl, -⟩ := List.cons_eq_cons.1 h
  cases hx : x.isInf <;> cases hy : y.isInf <;>
    simp only [hx, hy, reduceIte, Bool.false_eq_true] at hkind hkind'
  · rfl
  · rw [hkind'] at hkind
    cases hkind
  · rw [hkind] at hkind'
    cases hkind'
  · rfl

theorem eq_of_magnitudeText_eq (hsign : isNegative x = isNegative y)
    (h : magnitudeText x = magnitudeText y) : x = y := by
  have hinf := isInf_eq_of_magnitudeText_eq h
  cases hx : x.isInf with
  | true =>
    rw [hx] at hinf
    exact eq_of_parts_eq (by rw [parts_of_isInf hx, parts_of_isInf hinf.symm, hsign])
  | false =>
    rw [hx] at hinf
    exact eq_of_ofFloat_eq (ofFloat_eq_of_magnitudeText_eq hx hinf.symm h) hsign

theorem text_ne_nan (h : x.isNaN = false) : text x ≠ "NaN" := by
  intro heq
  have htext := text_of_not_nan h
  rw [heq] at htext
  split at htext
  · cases htext
  · exact magnitudeText_ne_cons (by decide) rfl _ htext.symm

/-- Doubles with the same text are the same. -/
theorem text_injective : Function.Injective text := by
  intro x y h
  cases hx : x.isNaN with
  | true =>
    cases hy : y.isNaN with
    | true => exact eq_of_parts_eq (by rw [parts_of_isNaN hx, parts_of_isNaN hy])
    | false =>
      have hnan : text x = "NaN" := if_pos hx
      exact absurd (h.symm.trans hnan) (text_ne_nan hy)
  | false =>
    cases hy : y.isNaN with
    | true =>
      have hnan : text y = "NaN" := if_pos hy
      exact absurd (h.trans hnan) (text_ne_nan hx)
    | false =>
      have htexts := congrArg String.toList h
      rw [text_of_not_nan hx, text_of_not_nan hy] at htexts
      have hdash : ∀ z cs, magnitudeText z ≠ '-' :: cs := fun z =>
        magnitudeText_ne_cons (by decide) rfl
      cases hsx : isNegative x <;> cases hsy : isNegative y <;>
        simp only [hsx, hsy, reduceIte, Bool.false_eq_true, List.nil_append, List.cons_append,
          List.cons_eq_cons, true_and] at htexts
      · exact eq_of_magnitudeText_eq (hsx.trans hsy.symm) htexts
      · exact absurd htexts (hdash x _)
      · exact absurd htexts.symm (hdash y _)
      · exact eq_of_magnitudeText_eq (hsx.trans hsy.symm) htexts

end Decimal

end Rubric
