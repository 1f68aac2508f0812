import Mathlib.Data.List.Forall2
import Rubric.Proofs.Placement
import Rubric.Proofs.Subjects

namespace Rubric

theorem OutcomeTable.find?_perm {table table' : OutcomeTable} (h : table'.Perm table)
    (hkeys : (table.map Prod.fst).Nodup) : table'.find? = table.find? := by
  have hperm : table'.reverse.Perm table.reverse :=
    (List.reverse_perm table').trans (h.trans (List.reverse_perm table).symm)
  have hkeys' : (table'.reverse.map Prod.fst).Nodup :=
    (((List.reverse_perm table').trans h).map Prod.fst).nodup_iff.2 hkeys
  funext key
  rw [find?, find?, find?_key_eq_of_perm hperm hkeys']

/-- The same outcome variables of the same item, in any order. -/
structure ItemResult.SameOutcomes (r r' : ItemResult) : Prop where
  identifier : r'.identifier = r.identifier
  outcomes : r'.outcomes.Perm r.outcomes

/-- The same outcome variables of the same items, in any order of the item results and of the
variables within each. -/
def Rearranged (results results' : List ItemResult) : Prop :=
  ∃ mid, results.Perm mid ∧ List.Forall₂ ItemResult.SameOutcomes mid results'

theorem ofResults_of_sameOutcomes {results results' : List ItemResult}
    (h : List.Forall₂ ItemResult.SameOutcomes results results') :
    (OutcomeTable.ofResults results').Perm (OutcomeTable.ofResults results) := by
  induction h with
  | nil => exact .refl _
  | @cons r r' rs rs' hr _ ih =>
    simp only [OutcomeTable.ofResults, List.flatMap_cons, hr.identifier] at ih ⊢
    exact (hr.outcomes.map _).append ih

theorem Rearranged.ofResults {results results' : List ItemResult}
    (h : Rearranged results results') :
    (OutcomeTable.ofResults results').Perm (OutcomeTable.ofResults results) := by
  obtain ⟨mid, hperm, hsame⟩ := h
  exact (ofResults_of_sameOutcomes hsame).trans (hperm.symm.flatMap_right _)

def AssessmentResult.outcomeKeys (result : AssessmentResult) : List String :=
  result.itemResults.flatMap fun r => r.outcomes.map fun v => outcomeKey r.identifier v.identifier

theorem map_fst_ofResults (result : AssessmentResult) :
    (OutcomeTable.ofResults result.itemResults).map Prod.fst = result.outcomeKeys := by
  simp only [OutcomeTable.ofResults, AssessmentResult.outcomeKeys, List.map_flatMap, List.map_map]
  rfl

namespace Environment

variable (env : Environment)

theorem scoreTestResult_rearranged (test : Test) {results results' : List ItemResult}
    (h : (OutcomeTable.ofResults results').find? = (OutcomeTable.ofResults results).find?)
    (result : String) (r : TestResult) :
    env.scoreTestResult test results' result r = env.scoreTestResult test results result r := by
  have hanswers : (env.testScope test results result).SameAnswers
      (env.testScope test results' result) Set.univ Set.univ :=
    Scope.sameAnswers_of_itemRefs ⟨rfl, rfl, rfl⟩ rfl rfl rfl h (Set.eqOn_refl _ _)
  have hrun := hanswers.executeAll_eq_univ (Node.statementsUnder test.processing)
    (r.outcomes.ensureAll test.outcomes)
  simp only [scoreTestResult, Scope.process_eq_executeAll]
  exact congrArg (fun run => run >>= fun store => pure { r with outcomes := store }) hrun

/-- The order in which item outcomes were recorded, and the responses recorded beside them, make no
difference to the results of a test, provided that the keys of the outcomes are distinct. -/
theorem scoreTest_rearranged (test : Test) {result result' : AssessmentResult}
    (hid : result'.identifier = result.identifier)
    (htests : result'.testResults = result.testResults)
    (hitems : Rearranged result.itemResults result'.itemResults)
    (hkeys : result.outcomeKeys.Nodup) :
    (env.scoreTest test result').value.testResults = (env.scoreTest test result).value.testResults ∧
      (env.scoreTest test result').log = (env.scoreTest test result).log := by
  rw [← map_fst_ofResults] at hkeys
  have hfind := OutcomeTable.find?_perm hitems.ofResults hkeys
  have hscore : env.scoreTestResult test result'.itemResults result'.identifier =
      env.scoreTestResult test result.itemResults result.identifier := by
    funext r
    rw [hid, env.scoreTestResult_rearranged test hfind]
  constructor
  · simp only [scoreTest, Logged.value_bind, Logged.value_pure, hscore, htests]
  · rw [log_scoreTest, log_scoreTest, hscore, htests]

/-- A test that adds up two scores, and one of an item that it does not refer to. -/
def addingTest : Test where
  identifier := "TST"
  itemRefs := [{ identifier := "ITM-1" }, { identifier := "ITM-2" }]
  outcomes := [.number "TOTAL"]
  processing := some {
    name := "outcomeProcessing"
    children := [.assigning "TOTAL" {
      name := "sum"
      children := [.reading "ITM-1.SCORE", .reading "ITM-2.SCORE", .reading "ITM-3.SCORE"] }] }

theorem scores_added_in_any_order :
    let env : Environment := { registry := {}, config := {} }
    let first : ItemResult :=
      { identifier := "ITM-1"
        outcomes := [.single "SCORE" .float "2", .single "MAXSCORE" .float "4"] }
    let first' : ItemResult :=
      { identifier := "ITM-1"
        responses := [.single "RESPONSE" .string "A"]
        outcomes := [.single "MAXSCORE" .float "4", .single "SCORE" .float "2"] }
    let second : ItemResult :=
      { identifier := "ITM-2", outcomes := [.single "SCORE" .float "3"] }
    let run := env.scoreTest addingTest { identifier := "R1", itemResults := [first, second] }
    let run' := env.scoreTest addingTest { identifier := "R1", itemResults := [second, first'] }
    run.value.testResults = [⟨"TST", [.single "TOTAL" .float "5"]⟩] ∧
      run.log = [.problem "TST - R1" (.itemRefUnknown "ITM-3")] ∧
      run'.value.testResults = run.value.testResults ∧ run'.log = run.log := by
  intro env first first' second run run'
  have hfirst : first.SameOutcomes first' := ⟨rfl, List.Perm.swap _ _ _⟩
  have hsecond : second.SameOutcomes second := ⟨rfl, .refl _⟩
  have hitems : Rearranged [first, second] [second, first'] :=
    ⟨[second, first], List.Perm.swap _ _ _, .cons hsecond (.cons hfirst .nil)⟩
  obtain ⟨hresults, hlog⟩ := @scoreTest_rearranged env addingTest
    { identifier := "R1", itemResults := [first, second] }
    { identifier := "R1", itemResults := [second, first'] } rfl rfl hitems (by decide +kernel)
  exact ⟨by decide +kernel, by decide +kernel, hresults, hlog⟩

end Environment

end Rubric
