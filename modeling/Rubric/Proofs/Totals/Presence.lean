import Rubric.Proofs.Frame
import Rubric.Proofs.Totals.Extension

namespace Rubric

namespace Environment

theorem isSome_outcome?_scoreTestResult (env : Environment) (test : Test)
    (itemResults : List ItemResult) (result : String) (r : TestResult) (x : String) :
    ((env.scoreTestResult test itemResults result r).value.outcome? x).isSome =
      ((r.outcome? x).isSome || (test.outcome? x).isSome) := by
  let s := env.testScope test itemResults result
  have hprepared : s.Prepared (r.outcomes.ensureAll test.outcomes) :=
    Scope.prepared_ensureAll (fun _ _ => Scope.mem_of_outcome?_test rfl) r.outcomes
  have hrun : (env.scoreTestResult test itemResults result r).value.outcomes =
      (s.executeAll (Node.statementsUnder test.processing)
        (r.outcomes.ensureAll test.outcomes)).value := by
    rw [← Scope.process_eq_executeAll]
    rfl
  rw [TestResult.outcome?, hrun, hprepared.isSome_find?_executeAll, Store.find?_ensureAll,
    Option.isSome_or, Option.isSome_map]
  rfl

/-- A derived total is among the outcomes of a test unless an assignment somewhere in the rules of
the test takes its identifier over, the test does not declare it, and nothing was recorded under it
before. -/
theorem derivedTotals_present_iff (env : Environment) (test : Test) (result : AssessmentResult) :
    let run := (env.scoreTest test.withDerivedTotals result).value
    let start := startingResult test.identifier result.testResults
    ∃ r, run.testResult? test.identifier = some r ∧
      ∀ d ∈ test.derivedTotals, (r.outcome? d.identifier).isSome = true ↔
        (start.outcome? d.identifier).isSome = true ∨ (test.outcome? d.identifier).isSome = true ∨
          d.identifier ∉ test.authoredTargets := by
  intro run start
  refine ⟨_, env.testResult?_scoreTest test.withDerivedTotals result, fun d hd => ?_⟩
  have hid : d.identifier ∈ test.derivedTotals.map DerivedTotal.identifier :=
    List.mem_map_of_mem hd
  have hadded : d.identifier ∈ test.missingTotals.map DerivedTotal.identifier ↔
      d.identifier ∉ test.authoredTargets :=
    Test.mem_addedNames.trans (and_iff_right hid)
  rw [isSome_outcome?_scoreTestResult, Test.outcome?_withDerivedTotals, Option.isSome_or,
    Bool.or_eq_true, Bool.or_eq_true]
  refine or_congr_right (or_congr_right ?_)
  rw [← hadded]
  split <;> simp_all

/-- A test that declares one of the totals that it takes over, deep inside a branch that no run gets
to. -/
def declaringTest : Test where
  identifier := "TST"
  itemRefs := (sampleTest "A").itemRefs
  outcomes := [.number "SCORE_TOTAL_A"]
  processing := some {
    name := "outcomeProcessing"
    children := [{
      name := "outcomeCondition"
      children := [{
        name := "outcomeIf"
        children := [.constant "boolean" "false",
          .assigning "SCORE_TOTAL_A" (.constant "float" "7")] }] }] }

theorem derivedTotals_present_when_declared :
    ∃ r, (standard.scoreTest declaringTest.withDerivedTotals sampleResult).value.testResult? "TST" =
        some r ∧
      ∀ d ∈ declaringTest.derivedTotals, (r.outcome? d.identifier).isSome = true := by
  obtain ⟨r, hr, hpresent⟩ := derivedTotals_present_iff standard declaringTest sampleResult
  refine ⟨r, hr, fun d hd => (hpresent d hd).2 ?_⟩
  have hcovered : ∀ d ∈ declaringTest.derivedTotals,
      (declaringTest.outcome? d.identifier).isSome = true ∨
        d.identifier ∉ declaringTest.authoredTargets := by decide +kernel
  exact .inr (hcovered d hd)

/-- An assignment to a total that is not declared keeps the total out of the result. -/
theorem undeclared_total_absent :
    let test : Test := {
      identifier := "TST"
      itemRefs := (sampleTest "A").itemRefs
      processing := some {
        name := "outcomeProcessing"
        children := [.assigning "SCORE_TOTAL" (.constant "float" "7")] } }
    (∃ d ∈ test.derivedTotals, d.identifier = "SCORE_TOTAL") ∧
      ((standard.scoreTest test.withDerivedTotals sampleResult).value.testResult? "TST").map
          (fun r => r.outcomes.map Variable.identifier) =
        some ["SCORE_TOTAL_WEIGHTED", "SCORE_TOTAL_A", "SCORE_TOTAL_WEIGHTED_A"] := by
  decide +kernel

end Environment

end Rubric
