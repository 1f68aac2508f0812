import Rubric.Proofs.Likeness
import Rubric.Scoring

namespace Rubric

/-- Whether a problem shows in the rules before any result is scored. -/
def Problem.foreseeable : Problem → Bool
  | targetUndeclared _ | operatorUnregistered _ => true
  | unknownStatement tag | unknownCondition tag | unknownExpression tag => !knowsTag tag
  | _ => false

namespace Logged

variable {α β : Type} {x : Logged α} {f : α → Logged β}

/-- No problem on record was foreseeable. -/
def Unforeseen (x : Logged α) : Prop :=
  ∀ label problem, .problem label problem ∈ x.log → problem.foreseeable = false

theorem unforeseen_pure (a : α) : (pure a : Logged α).Unforeseen := by
  intro label problem h
  cases h

theorem Unforeseen.bind (hx : x.Unforeseen) (hf : ∀ a, (f a).Unforeseen) :
    (x >>= f).Unforeseen := by
  intro label problem hp
  rcases List.mem_append.1 hp with hmem | hmem
  · exact hx label problem hmem
  · exact hf x.value label problem hmem

theorem Unforeseen.map (hx : x.Unforeseen) (g : α → β) : (g <$> x).Unforeseen :=
  hx.bind fun a => unforeseen_pure (g a)

theorem unforeseen_problem {label : String} {problem : Problem}
    (h : problem.foreseeable = false) : (record (.problem label problem)).Unforeseen := by
  intro l p hp
  cases List.mem_singleton.1 hp
  exact h

theorem unforeseen_skipped (item : String) (cause : ValueError) :
    (record (.skipped item cause)).Unforeseen := by
  intro label problem hp
  cases List.mem_singleton.1 hp

theorem unforeseen_of_diagnostics_eq_nil (h : x.log.diagnostics = []) : x.Unforeseen := by
  intro label problem hp
  have hmem : _ ∈ x.log.diagnostics := List.mem_filterMap.2 ⟨_, hp, rfl⟩
  rw [h] at hmem
  cases hmem

end Logged

open Logged (unforeseen_pure unforeseen_problem)

namespace Scope

variable (s : Scope) (tag : String) (node : Node) (values : List Value) {store : Store}

theorem unforeseen_report {problem : Problem} (h : problem.foreseeable = false) :
    (s.report problem).Unforeseen :=
  unforeseen_problem h

theorem unforeseen_fallback {α : Type} {problem : Problem} (h : problem.foreseeable = false)
    (default : α) : (s.fallback problem default).Unforeseen :=
  (s.unforeseen_report h).bind fun _ => unforeseen_pure default

section operands

theorem unforeseen_literal : (s.literal node).Unforeseen := by
  simp only [literal]
  cases node.attribute? "baseType" with
  | none => exact unforeseen_pure _
  | some spelling =>
    cases h : BaseType.ofSpelling spelling with
    | ok baseType =>
      simp only [h]
      exact unforeseen_pure _
    | error normal =>
      simp only [h]
      exact (s.unforeseen_fallback rfl _).bind fun _ => unforeseen_pure _

theorem unforeseen_containerOf? (cardinality : Cardinality) :
    (s.containerOf? tag cardinality values).Unforeseen := by
  simp only [containerOf?]
  split
  · exact s.unforeseen_fallback rfl _
  · exact unforeseen_pure _

theorem unforeseen_applyCustom (h : (s.registry.find? (operatorName node)).isSome = true) :
    (s.applyCustom node values).Unforeseen := by
  obtain ⟨operator, hfound⟩ := Option.isSome_iff_exists.1 h
  simp only [applyCustom, hfound]
  exact Logged.unforeseen_of_diagnostics_eq_nil (operator.silent values)

theorem unforeseen_numbersOf (texts : List String) : (s.numbersOf tag texts).Unforeseen := by
  induction texts with
  | nil => exact unforeseen_pure _
  | cons text rest ih =>
    simp only [numbersOf]
    cases readNumber text with
    | ok x => exact (unforeseen_pure x).bind fun _ => ih.bind fun _ => unforeseen_pure _
    | error cause =>
      exact (s.unforeseen_fallback rfl _).bind fun _ => ih.bind fun _ => unforeseen_pure _

theorem unforeseen_calculateOn (kind : Calculation) (xs : List Float) :
    (s.calculateOn tag kind xs).Unforeseen := by
  unfold calculateOn
  repeat' split
  all_goals first | exact unforeseen_pure _ | exact s.unforeseen_fallback rfl _

theorem unforeseen_calculateFrom (kind : Calculation) :
    (s.calculateFrom tag kind values).Unforeseen :=
  (s.unforeseen_numbersOf tag _).bind (s.unforeseen_calculateOn tag kind)

theorem unforeseen_pair? : (s.pair? tag values).Unforeseen := by
  unfold pair?
  split
  · exact unforeseen_pure _
  · exact s.unforeseen_fallback rfl _

theorem unforeseen_ordering? (left right : Value) : (s.ordering? tag left right).Unforeseen := by
  unfold ordering?
  repeat' split
  all_goals first | exact unforeseen_pure _ | exact s.unforeseen_fallback rfl _

theorem unforeseen_matchValues (left right : Value) :
    (s.matchValues tag left right).Unforeseen := by
  unfold matchValues
  repeat' split
  all_goals first | exact unforeseen_pure _ | exact s.unforeseen_fallback rfl _

theorem unforeseen_compareValues (kind : Comparison) (left right : Value) :
    (s.compareValues node kind left right).Unforeseen := by
  have hordering (p : Option Ordering → Bool) :
      (s.ordering? node.name left right >>= fun o => pure (p o)).Unforeseen :=
    (s.unforeseen_ordering? node.name left right).bind fun _ => unforeseen_pure _
  cases kind with
  | matching => exact s.unforeseen_matchValues node.name left right
  | equal =>
    simp only [compareValues]
    cases node.filledAttribute? "toleranceMode" with
    | none => exact hordering _
    | some mode =>
      by_cases hmode : mode != "exact"
      · simp only [hmode]
        exact s.unforeseen_fallback rfl _
      · simp only [hmode]
        exact hordering _
  | gt => exact hordering _
  | gte => exact hordering _
  | lt => exact hordering _
  | lte => exact hordering _

theorem unforeseen_sameText (left right : Value) : (s.sameText node left right).Unforeseen := by
  unfold sameText
  repeat' split
  all_goals first | exact unforeseen_pure _ | exact s.unforeseen_fallback rfl _

theorem unforeseen_occursIn (left right : Value) : (s.occursIn node left right).Unforeseen := by
  simp only [occursIn]
  repeat' split
  all_goals first | exact unforeseen_pure _ | exact s.unforeseen_fallback rfl _

theorem unforeseen_isNullValue : (s.isNullValue tag values).Unforeseen := by
  unfold isNullValue
  split
  · exact unforeseen_pure _
  · exact unforeseen_pure _
  · exact s.unforeseen_fallback rfl _

theorem unforeseen_valueHolds (value : Option Value) : (s.valueHolds tag value).Unforeseen := by
  unfold valueHolds
  split
  · exact unforeseen_pure _
  · exact s.unforeseen_fallback rfl _

theorem unforeseen_assigned? : (s.assigned? tag values).Unforeseen := by
  unfold assigned?
  split
  · exact unforeseen_pure _
  · exact unforeseen_pure _
  · exact s.unforeseen_fallback rfl _

theorem unforeseen_remarkCut (body : List Node) : (s.remarkCut body).Unforeseen := by
  unfold remarkCut
  split
  · exact s.unforeseen_report rfl
  · exact unforeseen_pure _

end operands

section reading

theorem unforeseen_weighted (ref : ItemRef) (weight key : String) (value : Value) :
    (s.weighted ref weight key value).Unforeseen := by
  unfold weighted
  repeat' split
  all_goals first | exact unforeseen_pure _ | exact s.unforeseen_fallback rfl _

theorem unforeseen_itemOutcome? (test : Test) (table : OutcomeTable) (item outcome : String)
    (weight : Option String) (missing : Severity) :
    (s.itemOutcome? test table item outcome weight missing).Unforeseen := by
  simp only [itemOutcome?]
  repeat' split
  · exact s.unforeseen_fallback rfl _
  · exact s.unforeseen_fallback rfl _
  · exact unforeseen_pure _
  · exact (s.unforeseen_weighted _ _ _ _).map _

theorem unforeseen_variableValue (store : Store) : (s.variableValue store node).Unforeseen := by
  simp only [variableValue, outcomeValue]
  repeat' split
  · exact s.unforeseen_fallback rfl _
  · exact unforeseen_pure _
  · exact s.unforeseen_fallback rfl _
  · exact unforeseen_pure _
  · exact (s.unforeseen_itemOutcome? _ _ _ _ _ _).bind fun _ => unforeseen_pure _
  · exact s.unforeseen_fallback rfl _

theorem unforeseen_correctValue? : (s.correctValue? node).Unforeseen := by
  simp only [correctValue?]
  repeat' split
  all_goals first | exact unforeseen_pure _ | exact s.unforeseen_fallback rfl _

theorem unforeseen_sumOutcomes (test : Test) (table : OutcomeTable) (outcome : String)
    (weight : Option String) (total : Float) (refs : List ItemRef) :
    (s.sumOutcomes test table outcome weight total refs).Unforeseen := by
  induction refs generalizing total with
  | nil => exact unforeseen_pure _
  | cons ref refs ih =>
    refine (s.unforeseen_itemOutcome? test table ref.identifier outcome weight .warning).bind
      fun value? => ?_
    cases value? with
    | none => exact ih total
    | some value =>
      cases h : value.asNumber with
      | ok x =>
        simp only [h]
        exact ih (total + x)
      | error cause =>
        simp only [h]
        exact (Logged.unforeseen_skipped ref.identifier cause).bind fun _ => ih total

theorem unforeseen_aggregate? : (s.aggregate? node).Unforeseen := by
  simp only [aggregate?]
  repeat' split
  · exact s.unforeseen_fallback rfl _
  · exact s.unforeseen_fallback rfl _
  · exact (s.unforeseen_sumOutcomes _ _ _ _ _ _).bind fun _ => unforeseen_pure _

end reading

theorem unforeseen_onPair {f : Value → Value → Logged Bool}
    (hf : ∀ left right, (f left right).Unforeseen) :
    (do
      match ← s.pair? tag values with
      | none => return false
      | some (left, right) => f left right).Unforeseen := by
  refine (s.unforeseen_pair? tag values).bind fun pair => ?_
  cases pair with
  | none => exact unforeseen_pure false
  | some operands => exact hf operands.1 operands.2

end Scope

end Rubric
