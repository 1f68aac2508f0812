import Rubric.Proofs.FloatText
import Rubric.Proofs.Matching

namespace Rubric

open Float.Model

theorem eq_or_zero_of_compare {u v : UnpackedFloat} (h : u.compare v = some .eq) :
    u = v ∨ (∃ s, u = .zero s) ∧ ∃ s, v = .zero s := by
  cases u with
  | notANumber => cases h
  | infinity s =>
    cases v with
    | infinity t => cases s <;> cases t <;> first | exact .inl rfl | cases h
    | _ => cases s <;> cases h
  | zero s =>
    cases v with
    | notANumber => cases h
    | zero t => exact .inr ⟨⟨s, rfl⟩, t, rfl⟩
    | infinity t | finite t => cases t <;> cases h
  | finite s m e hm =>
    cases v with
    | notANumber => cases h
    | infinity t => cases t <;> cases h
    | zero t => cases s <;> cases h
    | finite t n f hn =>
      refine .inl ?_
      cases s <;> cases t <;>
        simp [UnpackedFloat.compare, Ordering.then_eq_eq] at h ⊢
      · exact h.symm
      · exact h.symm

theorem beq_iff_compare {x y : Float} :
    (x == y) = true ↔ (parts x).compare (parts y) = some .eq := by
  have h : (x == y) = ((parts x).compare (parts y) == some .eq) := rfl
  rw [h, beq_iff_eq]

namespace Decimal

/-- The number that the canonical text of a number writes. -/
def rounded (x : Float) : Float :=
  roundSignificant 12 x + 0.0

variable {x y : Float}

theorem canonical_eq_iff (hx : x.isFinite = true) (hy : y.isFinite = true) :
    canonical x = canonical y ↔ rounded x = rounded y := by
  have hcanonical {z : Float} (hz : z.isFinite = true) : canonical z = text (rounded z) := by
    rw [canonical, hz]
    rfl
  rw [hcanonical hx, hcanonical hy, text_injective.eq_iff]

theorem rounded_of_zero {s : UnpackedFloat.Sign} (h : parts x = .zero s) :
    rounded x = 0.0 + 0.0 := by
  have hzero : (x == 0.0) = true := by
    rw [beq_iff_compare, h]
    rfl
  rw [rounded, roundSignificant, if_pos hzero]

theorem rounded_eq_of_beq (h : (x == y) = true) : rounded x = rounded y := by
  obtain hparts | ⟨⟨s, hx⟩, t, hy⟩ := eq_or_zero_of_compare (beq_iff_compare.1 h)
  · rw [eq_of_parts_eq hparts]
  · rw [rounded_of_zero hx, rounded_of_zero hy]

end Decimal

namespace Typed

/-- Whether two values are equal as what they are read as; the two zeros are one number. -/
def same : Typed → Typed → Bool
  | boolean a, boolean b => a == b
  | number x, number y => x == y
  | text a, text b => a == b
  | _, _ => false

def canonical : Typed → String
  | number x => Decimal.canonical x
  | boolean b => if b then "true" else "false"
  | text t => t

/-- Values read from texts of one base type. -/
inductive Alike : Typed → Typed → Prop
  | booleans (a b : Bool) : Alike (boolean a) (boolean b)
  | numbers {x y : Float} (hx : x.isFinite = true) (hy : y.isFinite = true) :
    Alike (number x) (number y)
  | texts (a b : String) : Alike (text a) (text b)

variable {u v : Typed} {baseType : BaseType} {a b : String}

theorem canonicalText?_eq (baseType : BaseType) (a : String) :
    Scope.canonicalText? baseType a = (readTyped baseType a).toOption.map canonical := by
  rw [Scope.canonicalText?]
  cases readTyped baseType a with
  | error e => rfl
  | ok u => cases u <;> rfl

theorem alike_of_readTyped (hu : readTyped baseType a = .ok u) (hv : readTyped baseType b = .ok v) :
    Alike u v := by
  have hnumber {text : String} {w : Typed} (h : number <$> readNumber text = .ok w) :
      ∃ x, w = number x ∧ x.isFinite = true := by
    cases hx : readNumber text with
    | error e => rw [hx] at h; cases h
    | ok x =>
      rw [hx] at h
      exact ⟨x, (Except.ok.inj h).symm, isFinite_of_readNumber (by rw [hx]; rfl)⟩
  have hboolean {text : String} {w : Typed} (h : boolean <$> readBoolean text = .ok w) :
      ∃ p, w = boolean p := by
    cases hp : readBoolean text with
    | error e => rw [hp] at h; cases h
    | ok p => rw [hp] at h; exact ⟨p, (Except.ok.inj h).symm⟩
  cases baseType with
  | integer | float | duration =>
    obtain ⟨x, rfl, hx⟩ := hnumber hu
    obtain ⟨y, rfl, hy⟩ := hnumber hv
    exact .numbers hx hy
  | boolean =>
    obtain ⟨p, rfl⟩ := hboolean hu
    obtain ⟨q, rfl⟩ := hboolean hv
    exact .booleans p q
  | _ =>
    cases hu
    cases hv
    exact .texts a b

/-- Canonical texts are equal for equal values, and for numbers that are rounded to the same. -/
theorem canonical_eq_iff (h : Alike u v) : u.canonical = v.canonical ↔ u.same v = true ∨
    ∃ x y, u = number x ∧ v = number y ∧ (x == y) = false ∧
      Decimal.rounded x = Decimal.rounded y := by
  cases h with
  | booleans a b => cases a <;> cases b <;> simp [canonical, same]
  | texts a b => simp [canonical, same]
  | @numbers x y hx hy =>
    rw [canonical, canonical, Decimal.canonical_eq_iff hx hy, same]
    cases hsame : x == y with
    | true => simp [Decimal.rounded_eq_of_beq hsame]
    | false => simp [hsame]

end Typed

structure Value.IsSingle (v : Value) (text : String) : Prop where
  cardinality : v.cardinality = .single
  scalar : v.scalar = some text
  members : v.members = none

/-- Both values can be read, and as the same. -/
def Value.SameTyped (left right : Value) : Prop :=
  ∃ u v, left.typed = .ok u ∧ right.typed = .ok v ∧ u.same v = true

/-- Different numbers that twelve significant digits do not tell apart. -/
def Value.Blurred (left right : Value) : Prop :=
  ∃ x y, left.typed = .ok (.number x) ∧ right.typed = .ok (.number y) ∧ (x == y) = false ∧
    Decimal.rounded x = Decimal.rounded y

namespace Scope

variable {s : Scope} {store : Store} {node : Node} {tag : String} {left right : Value}
  {a b : String}

theorem typed_of_isSingle (h : left.IsSingle a) : left.typed = readTyped left.baseType a := by
  rw [Value.typed, Value.scalarOrError, h.scalar]
  rfl

theorem canonicalForms_of_isSingle (h : left.IsSingle a) :
    canonicalForms left = [left.typed.toOption.map Typed.canonical] := by
  rw [canonicalForms, Value.texts, h.members, h.scalar, typed_of_isSingle h,
    ← Typed.canonicalText?_eq]
  rfl

theorem value_matchValues_of_isSingle (hleft : left.IsSingle a) (hright : right.IsSingle b)
    (hbase : left.baseType = right.baseType) :
    (s.matchValues tag left right).value = true ↔
      ∃ u v, left.typed = .ok u ∧ right.typed = .ok v ∧ u.canonical = v.canonical := by
  rw [value_matchValues_iff_forms, canonicalForms_of_isSingle hleft,
    canonicalForms_of_isSingle hright]
  cases left.typed with
  | error e => simp [Except.toOption]
  | ok u =>
    cases right.typed with
    | error e => simp [Except.toOption]
    | ok v => simp +contextual [Except.toOption, hbase]

theorem canonical_eq_iff_of_isSingle (hleft : left.IsSingle a) (hright : right.IsSingle b)
    (hbase : left.baseType = right.baseType) :
    (∃ u v, left.typed = .ok u ∧ right.typed = .ok v ∧ u.canonical = v.canonical) ↔
      left.SameTyped right ∨ left.Blurred right := by
  have halike {u v : Typed} (hu : left.typed = .ok u) (hv : right.typed = .ok v) : u.Alike v := by
    rw [typed_of_isSingle hleft] at hu
    rw [typed_of_isSingle hright, ← hbase] at hv
    exact Typed.alike_of_readTyped hu hv
  constructor
  · rintro ⟨u, v, hu, hv, heq⟩
    obtain hsame | ⟨x, y, rfl, rfl, hblur⟩ := (Typed.canonical_eq_iff (halike hu hv)).1 heq
    · exact .inl ⟨u, v, hu, hv, hsame⟩
    · exact .inr ⟨x, y, hu, hv, hblur⟩
  · rintro (⟨u, v, hu, hv, hsame⟩ | ⟨x, y, hu, hv, hblur⟩)
    · exact ⟨u, v, hu, hv, (Typed.canonical_eq_iff (halike hu hv)).2 (.inl hsame)⟩
    · exact ⟨_, _, hu, hv, (Typed.canonical_eq_iff (halike hu hv)).2 (.inr ⟨x, y, rfl, rfl, hblur⟩)⟩

theorem not_sameTyped_of_blurred (h : left.Blurred right) : ¬left.SameTyped right := by
  rintro ⟨u, v, hu, hv, hsame⟩
  obtain ⟨x, y, hx, hy, hdiffer, -⟩ := h
  cases hu.symm.trans hx
  cases hv.symm.trans hy
  rw [Typed.same, hdiffer] at hsame
  cases hsame

/-- A match of two single values of one base type. It holds if both can be read and are equal as
what they are read as. Beyond that it holds for different numbers that are rounded to the same, and
these are all where it is not equality of the values. -/
theorem single_match_iff (h : s.Matches store node left right) (hleft : left.IsSingle a)
    (hright : right.IsSingle b) (hbase : left.baseType = right.baseType) :
    ((s.holds store node).value = true ↔ left.SameTyped right ∨ left.Blurred right) ∧
      (((s.holds store node).value = true ↔ left.SameTyped right) ↔ ¬left.Blurred right) := by
  have hmatch : (s.holds store node).value = true ↔ left.SameTyped right ∨ left.Blurred right := by
    rw [h.value_holds, value_matchValues_of_isSingle hleft hright hbase,
      canonical_eq_iff_of_isSingle hleft hright hbase]
  refine ⟨hmatch, ?_⟩
  rw [hmatch]
  constructor
  · exact fun hsame hblurred => not_sameTyped_of_blurred hblurred (hsame.1 (.inr hblurred))
  · exact fun hclear => ⟨fun hmatched => hmatched.resolve_right hclear, .inl⟩

def literals (baseType a b : String) : Node where
  name := "match"
  children := [a, b].map fun text =>
    { name := "baseValue", attributes := .ofList [("baseType", baseType)], text := some text }

theorem one_half_matches_itself :
    let left := Value.single .float "0.50"
    let right := Value.single .float "5e-1"
    bare.Matches [] (literals "float" "0.50" "5e-1") left right ∧ left.SameTyped right ∧
      (bare.holds [] (literals "float" "0.50" "5e-1")).value = true := by
  intro left right
  have h : bare.Matches [] (literals "float" "0.50" "5e-1") left right :=
    ⟨by decide +kernel, by decide +kernel⟩
  have hsame : left.SameTyped right := ⟨.number 0.5, .number 0.5, by decide +kernel⟩
  exact ⟨h, hsame, (single_match_iff h ⟨rfl, rfl, rfl⟩ ⟨rfl, rfl, rfl⟩ rfl).1.2 (.inl hsame)⟩

/-- Two integers of thirteen digits match although they differ in the last. -/
theorem long_integers_match :
    let left := Value.single .integer "1234567890123"
    let right := Value.single .integer "1234567890124"
    let node := literals "integer" "1234567890123" "1234567890124"
    bare.Matches [] node left right ∧ left.typed = .ok (.number 1234567890123) ∧
      right.typed = .ok (.number 1234567890124) ∧ ¬left.SameTyped right ∧
      (bare.holds [] node).value = true ∧ (bare.holds [] node).log = [] := by
  intro left right node
  have hleft : left.typed = .ok (.number 1234567890123) := by decide +kernel
  have hright : right.typed = .ok (.number 1234567890124) := by decide +kernel
  have hdiffer : ¬left.SameTyped right := by
    rintro ⟨u, v, hu, hv, hsame⟩
    cases hu.symm.trans hleft
    cases hv.symm.trans hright
    exact absurd hsame (by decide +kernel)
  exact ⟨⟨by decide +kernel, by decide +kernel⟩, hleft, hright, hdiffer, by decide +kernel,
    by decide +kernel⟩

end Scope

end Rubric
