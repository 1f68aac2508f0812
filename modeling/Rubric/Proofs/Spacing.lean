import Rubric.CustomOperator
import Rubric.Proofs.TypedEquality

namespace Rubric

open Float.Model

section numbers

variable {x y z : Float}

theorem beq_symm (h : (x == y) = true) : (y == x) = true := by
  rw [beq_iff_compare] at h ⊢
  rw [← swap_compare, h]
  rfl

theorem beq_trans (hxy : (x == y) = true) (hyz : (y == z) = true) : (x == z) = true := by
  obtain hparts | ⟨⟨s, hx⟩, -⟩ := eq_or_zero_of_compare (beq_iff_compare.1 hxy)
  · rwa [eq_of_parts_eq hparts]
  · obtain hparts | ⟨-, t, hz⟩ := eq_or_zero_of_compare (beq_iff_compare.1 hyz)
    · rwa [← eq_of_parts_eq hparts]
    · rw [beq_iff_compare, hx, hz]
      rfl

end numbers

namespace Text

/-- Two texts of which one is made from the other by inserting and deleting blanks. -/
inductive Respaced : List Char → List Char → Prop
  | nil : Respaced [] []
  | keep (c : Char) {xs ys : List Char} (h : Respaced xs ys) : Respaced (c :: xs) (c :: ys)
  | delete {b : Char} {xs ys : List Char} (hb : isBlank b = true) (h : Respaced xs ys) :
    Respaced (b :: xs) ys
  | insert {b : Char} {xs ys : List Char} (hb : isBlank b = true) (h : Respaced xs ys) :
    Respaced xs (b :: ys)

theorem Respaced.filter_eq {xs ys : List Char} (h : Respaced xs ys) :
    (xs.filter fun c => !isBlank c) = ys.filter fun c => !isBlank c := by
  induction h with
  | nil => rfl
  | keep c _ ih => rw [List.filter_cons, List.filter_cons, ih]
  | delete hb _ ih =>
    rw [List.filter_cons_of_neg (by simp [hb])]
    exact ih
  | insert hb _ ih =>
    rw [List.filter_cons_of_neg (by simp [hb])]
    exact ih

end Text

namespace EquivalenceChecker

variable {a b c a' b' : String} {setup : Option String}

theorem squeeze_eq_of_respaced (h : Text.Respaced a.toList a'.toList) : squeeze a = squeeze a' := by
  rw [squeeze, squeeze, h.filter_eq]

def SameNumber (a b : String) : Prop :=
  ∃ x y, readNumber a = .ok x ∧ readNumber b = .ok y ∧ (x == y) = true

theorem SameNumber.symm (h : SameNumber a b) : SameNumber b a := by
  obtain ⟨x, y, hx, hy, hxy⟩ := h
  exact ⟨y, x, hy, hx, beq_symm hxy⟩

theorem SameNumber.trans (hab : SameNumber a b) (hbc : SameNumber b c) : SameNumber a c := by
  obtain ⟨x, y, hx, hy, hxy⟩ := hab
  obtain ⟨y', z, hy', hz, hyz⟩ := hbc
  cases hy.symm.trans hy'
  exact ⟨x, z, hx, hz, beq_trans hxy hyz⟩

theorem sameText_iff :
    sameText a b = true ↔ squeeze a = squeeze b ∨ SameNumber (squeeze a) (squeeze b) := by
  rw [sameText, Bool.or_eq_true, beq_iff_eq]
  apply or_congr_right
  constructor
  · intro h
    split at h
    · next x y hx hy => exact ⟨x, y, hx, hy, h⟩
    · cases h
  · rintro ⟨x, y, hx, hy, hxy⟩
    rw [hx, hy]
    exact hxy

theorem sameText_symm (h : sameText a b = true) : sameText b a = true := by
  rw [sameText_iff] at h ⊢
  exact h.imp Eq.symm SameNumber.symm

theorem sameText_trans (hab : sameText a b = true) (hbc : sameText b c = true) :
    sameText a c = true := by
  rw [sameText_iff] at hab hbc ⊢
  obtain hab | hab := hab
  · rwa [hab]
  · obtain hbc | hbc := hbc
    · exact .inr (hbc ▸ hab)
    · exact .inr (hab.trans hbc)

theorem sameText_of_respaced (ha : Text.Respaced a.toList a'.toList)
    (hb : Text.Respaced b.toList b'.toList) : sameText a b = sameText a' b' := by
  rw [Bool.eq_iff_iff, sameText_iff, sameText_iff, squeeze_eq_of_respaced ha,
    squeeze_eq_of_respaced hb]

theorem equivalent_textual_singleton : textual.equivalent setup a [b] = sameText a b := by
  change (sameText a b || false) = _
  rw [Bool.or_false]

/-- To the judge of texts, being equivalent is an equivalence relation whatever the setup. It does
not see blanks that are inserted or deleted, and among several accepted expressions it looks for
one that is equivalent. -/
theorem textual_equivalence :
    (∀ setup, Equivalence fun a b => textual.equivalent setup a [b] = true) ∧
    (∀ setup setup' a accepted,
      textual.equivalent setup a accepted = textual.equivalent setup' a accepted) ∧
    (∀ setup a a' b b', Text.Respaced a.toList a'.toList → Text.Respaced b.toList b'.toList →
      textual.equivalent setup a [b] = textual.equivalent setup a' [b']) ∧
    ∀ setup a accepted, textual.equivalent setup a accepted = true ↔
      ∃ b ∈ accepted, textual.equivalent setup a [b] = true := by
  simp only [equivalent_textual_singleton]
  refine ⟨?_, ?_, ?_, ?_⟩
  · intro setup
    constructor
    · intro a
      exact sameText_iff.2 (.inl rfl)
    · intro a b
      exact sameText_symm
    · intro a b c
      exact sameText_trans
  · intro setup setup' a accepted
    rfl
  · intro setup a a' b b' ha hb
    exact sameText_of_respaced ha hb
  · intro setup a accepted
    exact List.any_eq_true

theorem spaced_half_equivalent :
    Text.Respaced ". 5 ".toList ".5".toList ∧ Text.Respaced "0.50".toList "0.50".toList ∧
      textual.equivalent none ". 5 " ["0.50"] = true := by
  have hspaced : Text.Respaced ". 5 ".toList ".5".toList :=
    .keep '.' (.delete (by decide) (.keep '5' (.delete (by decide) .nil)))
  have hkept : Text.Respaced "0.50".toList "0.50".toList :=
    .keep '0' (.keep '.' (.keep '5' (.keep '0' .nil)))
  have hplain : textual.equivalent none ".5" ["0.50"] = true := by decide +kernel
  obtain ⟨-, -, hrespaced, -⟩ := textual_equivalence
  exact ⟨hspaced, hkept, (hrespaced none _ _ _ _ hspaced hkept).trans hplain⟩

end EquivalenceChecker

end Rubric
