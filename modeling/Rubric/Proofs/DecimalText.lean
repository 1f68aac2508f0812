import Mathlib.Algebra.GroupWithZero.Nat
import Rubric.Decimal.Numeral
import Rubric.Decimal.Shortest

namespace Rubric.Decimal

section digits

variable {n : Nat} {ds rest : List Char}

theorem digitsValue_digitChars (n : Nat) : digitsValue (digitChars n) = n :=
  Nat.ofDigitChars_ten_toDigits

theorem digitsValue_append_zeros (ds : List Char) (k : Nat) :
    digitsValue (ds ++ List.replicate k '0') = digitsValue ds * 10 ^ k := by
  change Nat.ofDigitChars 10 (ds ++ List.replicate k '0') 0 = _
  rw [Nat.ofDigitChars_append, Nat.ofDigitChars_replicate_zero, Nat.mul_comm]
  rfl

theorem digitsValue_zeros_append (k : Nat) (ds : List Char) :
    digitsValue (List.replicate k '0' ++ ds) = digitsValue ds := by
  change Nat.ofDigitChars 10 (List.replicate k '0' ++ ds) 0 = _
  rw [Nat.ofDigitChars_append, Nat.ofDigitChars_replicate_zero, Nat.mul_zero]
  rfl

theorem isDigit_of_mem_digitChars {c : Char} (h : c ∈ digitChars n) : c.isDigit = true :=
  Nat.isDigit_of_mem_toDigits (by decide) (by decide) h

theorem isDigit_of_mem_zeros {c : Char} {k : Nat} (h : c ∈ List.replicate k '0') :
    c.isDigit = true :=
  List.eq_of_mem_replicate h ▸ rfl

theorem takeDigits_append_rest (hds : ∀ c ∈ ds, c.isDigit = true)
    (hrest : ∀ c ∈ rest.head?, c.isDigit = false) : takeDigits (ds ++ rest) = (ds, rest) := by
  have htake : rest.takeWhile Char.isDigit = [] ∧ rest.dropWhile Char.isDigit = rest := by
    cases rest with
    | nil => exact ⟨rfl, rfl⟩
    | cons c rest => simp [hrest c rfl]
  rw [takeDigits, List.takeWhile_append_of_pos hds, List.dropWhile_append_of_pos hds, htake.1,
    htake.2, List.append_nil]

theorem takeDigits_of_digits (hds : ∀ c ∈ ds, c.isDigit = true) : takeDigits ds = (ds, []) := by
  have h : takeDigits (ds ++ []) = (ds, []) := takeDigits_append_rest hds (by simp)
  rwa [List.append_nil] at h

theorem takeSign_of_digits {cs : List Char} (hds : ∀ c ∈ ds, c.isDigit = true) (hne : ds ≠ []) :
    takeSign (ds ++ cs) = (false, ds ++ cs) := by
  cases ds with
  | nil => exact absurd rfl hne
  | cons d ds =>
    have hd := hds d List.mem_cons_self
    rw [List.cons_append, takeSign.eq_3]
    · rintro _ h
      cases h
      cases hd
    · rintro _ h
      cases h
      cases hd

end digits

theorem ofChars?_whole {ds : List Char} (hds : ∀ c ∈ ds, c.isDigit = true) (hne : ds ≠ []) :
    Numeral.ofChars? ds = some ⟨false, digitsValue ds, 0⟩ := by
  have hsign : takeSign (ds ++ []) = (false, ds ++ []) := takeSign_of_digits hds hne
  rw [List.append_nil] at hsign
  simp [Numeral.ofChars?, hsign, takeDigits_of_digits hds, takeFraction, hne, readExponent]

theorem ofChars?_point {whole fraction : List Char} (hwhole : ∀ c ∈ whole, c.isDigit = true)
    (hne : whole ≠ []) (hfraction : ∀ c ∈ fraction, c.isDigit = true) :
    Numeral.ofChars? (whole ++ '.' :: fraction) =
      some ⟨false, digitsValue (whole ++ fraction), -fraction.length⟩ := by
  have hdigits : takeDigits (whole ++ '.' :: fraction) = (whole, '.' :: fraction) :=
    takeDigits_append_rest hwhole (by simp)
  simp [Numeral.ofChars?, takeSign_of_digits hwhole hne, hdigits, takeFraction,
    takeDigits_of_digits hfraction, hne, readExponent]

namespace Scaled

variable {s : Scaled}

theorem positional_of_scale_nonneg (h : 0 ≤ s.scale) :
    s.positional = digitChars s.digits ++ List.replicate s.scale.toNat '0' := by
  rw [positional, if_pos h]

theorem positional_of_scale_neg (h : s.scale < 0) :
    ∃ whole fraction, s.positional = whole ++ '.' :: fraction ∧ whole ≠ [] ∧
      (∀ c ∈ whole ++ fraction, c.isDigit = true) ∧
      digitsValue (whole ++ fraction) = s.digits ∧ fraction.length = s.scale.natAbs := by
  rw [positional, if_neg (by omega)]
  have hlength : 0 < (digitChars s.digits).length := Nat.length_toDigits_pos
  dsimp only
  split
  · next hlong =>
    refine ⟨_, _, rfl, ?_, ?_, ?_, ?_⟩
    · intro hnil
      have := congrArg List.length hnil
      rw [List.length_take, List.length_nil] at this
      omega
    · rw [List.take_append_drop]
      exact fun c => isDigit_of_mem_digitChars
    · rw [List.take_append_drop, digitsValue_digitChars]
    · rw [List.length_drop]
      omega
  · next hshort =>
    refine ⟨['0'], _, rfl, List.cons_ne_nil _ _, ?_, ?_, ?_⟩
    · intro c hc
      rw [List.singleton_append, List.mem_cons, List.mem_append] at hc
      obtain rfl | hc | hc := hc
      · rfl
      · exact isDigit_of_mem_zeros hc
      · exact isDigit_of_mem_digitChars hc
    · have hzero := digitsValue_zeros_append 1
        (List.replicate (s.scale.natAbs - (digitChars s.digits).length) '0' ++ digitChars s.digits)
      rw [List.replicate_one] at hzero
      rw [hzero, digitsValue_zeros_append, digitsValue_digitChars]
    · rw [List.length_append, List.length_replicate]
      omega

/-- A decimal is read back from its positional text. -/
theorem ofChars?_positional (s : Scaled) :
    Numeral.ofChars? s.positional = some ⟨false, s.digits * 10 ^ s.scale.toNat, min s.scale 0⟩ := by
  by_cases h : 0 ≤ s.scale
  · rw [positional_of_scale_nonneg h, ofChars?_whole ?_ ?_, digitsValue_append_zeros,
      digitsValue_digitChars, Int.min_eq_right h]
    · intro c hc
      exact (List.mem_append.1 hc).elim isDigit_of_mem_digitChars isDigit_of_mem_zeros
    · exact List.append_ne_nil_of_left_ne_nil Nat.toDigits_ne_nil _
  · rw [Int.not_le] at h
    obtain ⟨whole, fraction, htext, hne, hdigits, hvalue, hlength⟩ := positional_of_scale_neg h
    have hwhole : ∀ c ∈ whole, c.isDigit = true := fun c hc =>
      hdigits c (List.mem_append_left _ hc)
    have hfraction : ∀ c ∈ fraction, c.isDigit = true := fun c hc =>
      hdigits c (List.mem_append_right _ hc)
    have hscale : s.scale.toNat = 0 := by omega
    have hexponent : -(fraction.length : Int) = min s.scale 0 := by omega
    rw [htext, ofChars?_point hwhole hne hfraction, hvalue, hexponent, hscale, Nat.pow_zero,
      Nat.mul_one]

theorem positional_eq_cons (s : Scaled) :
    ∃ c cs, s.positional = c :: cs ∧ c.isDigit = true := by
  by_cases h : 0 ≤ s.scale
  · have hne : digitChars s.digits ≠ [] := Nat.toDigits_ne_nil
    obtain ⟨c, cs, hds⟩ := List.exists_cons_of_ne_nil hne
    have hmem : c ∈ digitChars s.digits := hds ▸ List.mem_cons_self
    refine ⟨c, cs ++ List.replicate s.scale.toNat '0', ?_, isDigit_of_mem_digitChars hmem⟩
    rw [positional_of_scale_nonneg h, hds, List.cons_append]
  · rw [Int.not_le] at h
    obtain ⟨whole, fraction, htext, hne, hdigits, -, -⟩ := positional_of_scale_neg h
    obtain ⟨c, cs, rfl⟩ := List.exists_cons_of_ne_nil hne
    exact ⟨c, cs ++ '.' :: fraction, by rw [htext, List.cons_append], hdigits c (by simp)⟩

end Scaled

end Rubric.Decimal
