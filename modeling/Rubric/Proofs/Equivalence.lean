import Rubric.CustomOperator

namespace Rubric

theorem Value.boolean_eq_false_iff {b : Bool} : Value.boolean b = .boolean false ↔ b = false := by
  cases b <;> decide

namespace EquivalenceChecker

/-- No candidate is equivalent to one of no expressions. -/
def RejectsNone (checker : EquivalenceChecker) : Prop :=
  ∀ setup candidate, checker.equivalent setup candidate [] = false

theorem rejectsNone_textual : textual.RejectsNone := by
  intro setup candidate
  rfl

theorem squeeze_eq_empty_iff {text : String} : squeeze text = "" ↔ Text.allBlank text = true := by
  rw [squeeze, String.ofList_eq_empty_iff, List.filter_eq_nil_iff, Text.allBlank, List.all_eq_true]
  simp only [Bool.not_eq_true', Bool.not_eq_false]

theorem sameText_empty {text : String} : sameText "" text = Text.allBlank text := by
  have hempty : squeeze "" = "" := by decide
  have hnumber : readNumber "" = .error (.notNumeric "") := by rfl
  simp only [sameText, hempty, hnumber, Bool.or_false]
  rw [Bool.eq_iff_iff, beq_iff_eq, eq_comm, squeeze_eq_empty_iff]

end EquivalenceChecker

namespace CustomOperator

/-- The candidate has no scalar, and one of the other operands alone has one. -/
def AnswerAlone : List Value → String → Prop
  | [], _ => False
  | candidate :: others, text =>
    candidate.scalar = none ∧ others.filterMap Value.scalar = [text]

variable {checker : EquivalenceChecker} {setup : Option String}
  {values operands others : List Value} {candidate second : Value} {text : String}

theorem value_mathEqual_of_short (h : takeSetup values = (setup, operands))
    (hshort : operands.length < 2) : ((mathEqual checker).apply values).value = .boolean false := by
  match operands, hshort with
  | [], _ => simp only [mathEqual, h, Logged.value_pure]
  | [v], _ => simp only [mathEqual, h, Logged.value_pure]

theorem value_mathEqual_eq_false_iff
    (h : takeSetup values = (setup, candidate :: second :: others)) :
    ((mathEqual checker).apply values).value = .boolean false ↔
      checker.equivalent setup (candidate.scalar.getD "")
        ((second :: others).filterMap Value.scalar) = false := by
  simp only [mathEqual, h, Logged.value_bind, Logged.value_pure]
  exact Value.boolean_eq_false_iff

/-- Of fewer than two scalars, none is left to compare with, or one alone. -/
theorem scalars_of_few (h : ((candidate :: others).filterMap Value.scalar).length < 2) :
    others.filterMap Value.scalar = [] ∨ ∃ text, AnswerAlone (candidate :: others) text := by
  cases hcandidate : candidate.scalar with
  | none =>
    rw [List.filterMap_cons_none hcandidate] at h
    match hothers : others.filterMap Value.scalar, h with
    | [], _ => exact .inl rfl
    | [text], _ => exact .inr ⟨text, hcandidate, hothers⟩
  | some own =>
    rw [List.filterMap_cons_some hcandidate, List.length_cons] at h
    exact .inl (List.eq_nil_of_length_eq_zero (by omega))

theorem mathEqual_eq_false_iff_of_few (hsetup : takeSetup values = (setup, operands))
    (hfew : (operands.filterMap Value.scalar).length < 2) (hnone : checker.RejectsNone) :
    ((mathEqual checker).apply values).value = .boolean false ↔
      ∀ text, AnswerAlone operands text → checker.equivalent setup "" [text] = false := by
  match operands with
  | [] =>
    apply iff_of_true (value_mathEqual_of_short hsetup Nat.two_pos)
    rintro text ⟨⟩
  | [v] =>
    apply iff_of_true (value_mathEqual_of_short hsetup Nat.one_lt_two)
    rintro text ⟨-, ⟨⟩⟩
  | candidate :: second :: others =>
    rw [value_mathEqual_eq_false_iff hsetup]
    rcases scalars_of_few hfew with hothers | ⟨text, hcandidate, hothers⟩
    · rw [hothers]
      apply iff_of_true (hnone _ _)
      rintro text ⟨-, halone⟩
      rw [hothers] at halone
      cases halone
    · rw [hcandidate, hothers]
      constructor
      · rintro hrejected other ⟨-, hother⟩
        rw [hothers] at hother
        cases hother
        exact hrejected
      · intro hall
        exact hall text ⟨hcandidate, hothers⟩

/-- With fewer than two scalars to compare, fewer than two operands are rejected by every checker,
and two or more are accepted by some. A checker that accepts nothing of nothing rejects them unless
the one scalar is an answer equivalent to the empty text; for the checker of texts, a blank one. -/
theorem mathEqual_fails_closed_iff (hsetup : takeSetup values = (setup, operands))
    (hfew : (operands.filterMap Value.scalar).length < 2) :
    ((∀ checker, ((mathEqual checker).apply values).value = .boolean false) ↔
      operands.length < 2) ∧
    (∀ checker, checker.RejectsNone →
      (((mathEqual checker).apply values).value = .boolean false ↔
        ∀ text, AnswerAlone operands text → checker.equivalent setup "" [text] = false)) ∧
    (((mathEqual .textual).apply values).value = .boolean false ↔
      ∀ text, AnswerAlone operands text → Text.allBlank text = false) := by
  refine ⟨?_, fun checker hnone => mathEqual_eq_false_iff_of_few hsetup hfew hnone, ?_⟩
  · constructor
    · intro hall
      match operands with
      | [] => exact Nat.two_pos
      | [v] => exact Nat.one_lt_two
      | candidate :: second :: others =>
        -- A checker that takes everything for equivalent is a checker, too.
        have hlax := (value_mathEqual_eq_false_iff hsetup).1 (hall ⟨fun _ _ _ => true⟩)
        cases hlax
    · intro hshort checker
      exact value_mathEqual_of_short hsetup hshort
  · rw [mathEqual_eq_false_iff_of_few hsetup hfew EquivalenceChecker.rejectsNone_textual]
    simp only [EquivalenceChecker.textual, List.any_cons, List.any_nil, Bool.or_false,
      EquivalenceChecker.sameText_empty]

/-- Setup code does not count as an operand. -/
theorem one_scalar_rejected :
    ((mathEqual .textual).apply [(Value.string "x").named "setup", .string "1"]).value =
      .boolean false := by
  have hsetup : takeSetup [(Value.string "x").named "setup", .string "1"] =
      (some "x", [.string "1"]) := by
    decide
  obtain ⟨⟨-, hshort⟩, -⟩ := mathEqual_fails_closed_iff hsetup (by decide)
  exact hshort Nat.one_lt_two .textual

/-- A container is taken for the empty text, and so equivalent to an answer left empty. -/
theorem container_equivalent_to_empty_answer :
    let values := [Value.container .identifier .multiple ["A"], .string ""]
    takeSetup values = (none, values) ∧ (values.filterMap Value.scalar).length < 2 ∧
      ((mathEqual .textual).apply values).value = .boolean true := by
  decide

end CustomOperator

end Rubric
