import Rubric.Proofs.Placement
import Rubric.Proofs.Totals.Rule

namespace Rubric

theorem find?_foldl_declareTotal (totals : List DerivedTotal) (ds : List OutcomeDeclaration)
    (identifier : String) :
    OutcomeDeclaration.find? (totals.foldl declareTotal ds) identifier =
      (OutcomeDeclaration.find? ds identifier).or
        (if identifier ∈ totals.map DerivedTotal.identifier then some (.number identifier)
          else none) := by
  induction totals generalizing ds with
  | nil => simp
  | cons d totals ih =>
    rw [List.foldl_cons, ih, declareTotal]
    split
    · next hnew =>
      rw [OutcomeDeclaration.find?_append_number, Option.or_assoc]
      congr 1
      by_cases hd : d.identifier = identifier
      · simp [hd]
      · simp [hd, Ne.symm hd]
    · next hold =>
      obtain ⟨e, he, hed⟩ : ∃ e ∈ ds, e.identifier = d.identifier := by simpa using hold
      by_cases hd : d.identifier = identifier
      · have hfound := OutcomeDeclaration.isSome_find?_of_mem he
        rw [hed, hd] at hfound
        obtain ⟨f, hf⟩ := Option.isSome_iff_exists.1 hfound
        simp [hf]
      · simp [Ne.symm hd]

namespace DerivedTotal

variable {s : Scope} {test : Test} {results : List ItemResult} {totals : List DerivedTotal}

/-- A total that the rules of a scope can compute. -/
structure Writable (d : DerivedTotal) (s : Scope) : Prop where
  regular : d.Regular
  declared : (s.outcome? d.identifier).isSome = true

theorem find?_executeAll_statements (s : Scope) {identifier : String}
    (hne : ∀ d ∈ totals, d.identifier ≠ identifier) (store : Store) :
    Variable.find? (s.executeAll (totals.map statement) store).value identifier =
      Variable.find? store identifier := by
  apply s.find?_executeAll_of_not_mem (within_statements totals)
  intro hmem
  obtain ⟨d, hd, hid⟩ := List.mem_map.1 hmem
  exact hne d hd hid

theorem diagnostics_executeAll_statements (hs : s.subject = .test test (.ofResults results))
    (h : ∀ d ∈ totals, d.Writable s) (store : Store) :
    (s.executeAll (totals.map statement) store).log.diagnostics =
      totals.flatMap fun d => d.warnings test results s.label := by
  induction totals generalizing store with
  | nil => rfl
  | cons d totals ih =>
    obtain ⟨declaration, hd⟩ := Option.isSome_iff_exists.1 (h d (.head _)).declared
    obtain ⟨-, hlog⟩ := (h d (.head _)).regular.execute_statement hs hd store
    simp only [List.map_cons, Scope.executeAll, Logged.log_bind, Log.diagnostics_append, hlog,
      ih fun e he => h e (.tail _ he), List.flatMap_cons]

theorem find?_executeAll_last (hs : s.subject = .test test (.ofResults results))
    {before after : List DerivedTotal} {d : DerivedTotal} (hd : d.Writable s)
    (hlast : ∀ e ∈ after, e.identifier ≠ d.identifier)
    {store : Store} {v : Variable} (hv : store.HasShape v) (hvd : v.identifier = d.identifier) :
    Variable.find? (s.executeAll ((before ++ d :: after).map statement) store).value d.identifier =
      some (v.assign (.number (d.sum test results))) := by
  -- Totals before may write to the same variable, but they leave its shape, which decides alone.
  have hbefore := (s.stable_hasShape v).executeAll (before.map statement) hv
  obtain ⟨declaration, hdecl⟩ := Option.isSome_iff_exists.1 hd.declared
  rw [List.map_append, List.map_cons, Scope.executeAll_append]
  simp only [Logged.value_bind, Scope.executeAll]
  rw [find?_executeAll_statements s hlast]
  obtain ⟨hvalue, -⟩ := hd.regular.execute_statement hs hdecl
    (s.executeAll (before.map statement) store).value
  rw [hvalue, ← hvd]
  exact hbefore.find?_write ((Scope.outcome?_identifier hdecl).trans hvd.symm) _

theorem sum_withDerivedTotals (d : DerivedTotal) :
    d.sum test.withDerivedTotals results = d.sum test results := rfl

theorem warnings_withDerivedTotals (d : DerivedTotal) (label : String) :
    d.warnings test.withDerivedTotals results label = d.warnings test results label := rfl

end DerivedTotal

namespace Test

variable {test : Test}

theorem missingTotals_eq_derivedTotals
    (h : ∀ d ∈ test.derivedTotals, d.identifier ∉ test.authoredTargets) :
    test.missingTotals = test.derivedTotals := by
  rw [missingTotals, List.filter_eq_self]
  intro d hd
  simpa using h d hd

theorem authoredTargets_of_processing_eq_none (h : test.processing = none) :
    test.authoredTargets = [] := by
  rw [authoredTargets, h]

theorem missingTotals_of_processing_eq_none (test : Test) (h : test.processing = none) :
    test.missingTotals = test.derivedTotals := by
  apply missingTotals_eq_derivedTotals
  simp [authoredTargets_of_processing_eq_none h]

theorem outcome?_withDerivedTotals (identifier : String) :
    test.withDerivedTotals.outcome? identifier =
      (test.outcome? identifier).or
        (if identifier ∈ test.missingTotals.map DerivedTotal.identifier then
          some (.number identifier) else none) :=
  find?_foldl_declareTotal test.missingTotals test.outcomes identifier

theorem writable_of_mem_missingTotals {d : DerivedTotal} (h : d ∈ test.missingTotals)
    (env : Environment) (itemResults : List ItemResult) (result : String) :
    d.Writable (env.testScope test.withDerivedTotals itemResults result) where
  regular := regular_of_mem_derivedTotals (List.mem_of_mem_filter h)
  declared := by
    change (test.withDerivedTotals.outcome? d.identifier).isSome = true
    rw [outcome?_withDerivedTotals, if_pos (List.mem_map_of_mem h), Option.isSome_or]
    exact Bool.or_true _

/-- The variable that a total is written to: the recorded one, else one made from the declaration of
the test, else a new number. -/
def totalVariable (test : Test) (r : TestResult) (identifier : String) : Variable :=
  (r.outcome? identifier).getD ((test.outcome? identifier).getD (.number identifier)).toVariable

theorem identifier_totalVariable (r : TestResult) (identifier : String) :
    (test.totalVariable r identifier).identifier = identifier := by
  unfold totalVariable
  cases hr : r.outcome? identifier with
  | some v => exact Variable.identifier_of_find? hr
  | none =>
    cases hd : test.outcome? identifier with
    | some d => exact OutcomeDeclaration.identifier_of_find? hd
    | none => rfl

theorem find?_ensureAll_totalVariable {d : DerivedTotal} (h : d ∈ test.missingTotals)
    (r : TestResult) :
    Variable.find? (r.outcomes.ensureAll test.withDerivedTotals.outcomes) d.identifier =
      some (test.totalVariable r d.identifier) := by
  have hdecl := test.outcome?_withDerivedTotals d.identifier
  rw [if_pos (List.mem_map_of_mem h)] at hdecl
  rw [Store.find?_ensureAll]
  change (Variable.find? r.outcomes d.identifier).or
    ((test.withDerivedTotals.outcome? d.identifier).map _) = _
  rw [hdecl, totalVariable, TestResult.outcome?]
  cases Variable.find? r.outcomes d.identifier <;> cases test.outcome? d.identifier <;> rfl

end Test

def sampleTest (category : String) : Test where
  identifier := "TST"
  itemRefs := [{
    identifier := "ITM-1"
    categories := .ofList [category]
    weights := .ofList [("WEIGHT", 3.0)] }]

def sampleResult : AssessmentResult where
  identifier := "R1"
  itemResults := [{ identifier := "ITM-1", outcomes := [.single "SCORE" .float "2"] }]

namespace Environment

variable {test : Test}

/-- After a test has been scored, the last missing total of an identifier stands in the outcome of
that identifier, whatever the rules of the test themselves did. -/
theorem outcome?_scoreTestResult_withDerivedTotals (env : Environment)
    {before after : List DerivedTotal} {d : DerivedTotal}
    (h : test.missingTotals = before ++ d :: after)
    (hlast : ∀ e ∈ after, e.identifier ≠ d.identifier) (itemResults : List ItemResult)
    (result : String) (r : TestResult) :
    (env.scoreTestResult test.withDerivedTotals itemResults result r).value.outcome? d.identifier =
      some ((test.totalVariable r d.identifier).assign (.number (d.sum test itemResults))) := by
  let s := env.testScope test.withDerivedTotals itemResults result
  let store := r.outcomes.ensureAll test.withDerivedTotals.outcomes
  have hmem : d ∈ test.missingTotals := by simp [h]
  have hwritable : d.Writable s :=
    Test.writable_of_mem_missingTotals hmem env itemResults result
  have hid := test.identifier_totalVariable r d.identifier
  have hstart : store.HasShape (test.totalVariable r d.identifier) :=
    Store.HasShape.of_find? (hid.symm ▸ Test.find?_ensureAll_totalVariable hmem r)
  -- Nothing is known of the rules of the test beyond that they keep the shapes of variables.
  have hauthored := (s.stable_hasShape _).executeAll test.processingRoot.children hstart
  change Variable.find? (s.executeAll (test.processingRoot.children ++
    test.missingTotals.map DerivedTotal.statement) store).value d.identifier = _
  rw [Scope.executeAll_append, Logged.value_bind, h, ← DerivedTotal.sum_withDerivedTotals]
  exact DerivedTotal.find?_executeAll_last rfl hwritable hlast hauthored hid

theorem diagnostics_scoreTestResult_withDerivedTotals (env : Environment)
    (h : test.processing = none) (itemResults : List ItemResult) (result : String)
    (r : TestResult) :
    (env.scoreTestResult test.withDerivedTotals itemResults result r).log.diagnostics =
      test.missingTotals.flatMap fun d =>
        d.warnings test itemResults (label test.identifier result) := by
  let s := env.testScope test.withDerivedTotals itemResults result
  let store := r.outcomes.ensureAll test.withDerivedTotals.outcomes
  have hroot : test.processingRoot.children = [] := by rw [Test.processingRoot, h]; rfl
  have hlog : (env.scoreTestResult test.withDerivedTotals itemResults result r).log =
      (s.executeAll (test.processingRoot.children ++ test.missingTotals.map DerivedTotal.statement)
        store).log :=
    List.append_nil _
  have hwritable : ∀ d ∈ test.missingTotals, d.Writable s :=
    fun d hd => Test.writable_of_mem_missingTotals hd env itemResults result
  rw [hlog, hroot, List.nil_append, DerivedTotal.diagnostics_executeAll_statements rfl hwritable]
  simp only [DerivedTotal.warnings_withDerivedTotals]
  rfl

/-- A test without rules reports every derived total: of those with one identifier the last stands
in the outcome of that identifier, and what is remarked on are the items that the totals cover. -/
theorem scoreTest_reports_derivedTotals (env : Environment) (h : test.processing = none)
    (result : AssessmentResult) :
    let run := env.scoreTest test.withDerivedTotals result
    let start := startingResult test.identifier result.testResults
    ∃ r, run.value.testResult? test.identifier = some r ∧
      (∀ before d after, test.derivedTotals = before ++ d :: after →
        (∀ e ∈ after, e.identifier ≠ d.identifier) →
        r.outcome? d.identifier =
          some ((test.totalVariable start d.identifier).assign
            (.number (d.sum test result.itemResults)))) ∧
      run.log.diagnostics = (test.derivedTotals.flatMap fun d =>
        d.warnings test result.itemResults (label test.identifier result.identifier)) ∧
      ∀ x ∈ run.log.diagnostics, x.severity = .warning := by
  intro run start
  have hmissing : test.missingTotals = test.derivedTotals := by
    apply Test.missingTotals_eq_derivedTotals
    simp [Test.authoredTargets_of_processing_eq_none h]
  have hlog : run.log.diagnostics = test.derivedTotals.flatMap fun d =>
      d.warnings test result.itemResults (label test.identifier result.identifier) := by
    rw [← hmissing]
    change (env.scoreTest test.withDerivedTotals result).log.diagnostics = _
    rw [log_scoreTest]
    exact env.diagnostics_scoreTestResult_withDerivedTotals h _ _ _
  refine ⟨_, env.testResult?_scoreTest test.withDerivedTotals result, ?_, hlog, ?_⟩
  · intro before d after hsplit hlast
    exact env.outcome?_scoreTestResult_withDerivedTotals (hmissing.trans hsplit) hlast _ _ _
  · intro x hx
    rw [hlog] at hx
    obtain ⟨d, -, hd⟩ := List.mem_flatMap.1 hx
    obtain ⟨p, -, rfl⟩ := List.mem_map.1 hd
    rfl

def standard : Environment where
  registry := .standard .textual
  config := {}

theorem scoreTest_reports_sample_totals :
    let run := standard.scoreTest (sampleTest "A").withDerivedTotals sampleResult
    ∃ r, run.value.testResult? "TST" = some r ∧
      (r.outcome? "SCORE_TOTAL_WEIGHTED_A").bind Variable.scalar = some "6" ∧
      run.log.diagnostics = [] := by
  obtain ⟨r, hr, houtcome, hlog, -⟩ :=
    @scoreTest_reports_derivedTotals (sampleTest "A") standard rfl sampleResult
  refine ⟨r, hr, ?_, ?_⟩
  · rw [houtcome [{ identifier := "SCORE_TOTAL" },
      { identifier := "SCORE_TOTAL_WEIGHTED", weight := some "WEIGHT" },
      { identifier := "SCORE_TOTAL_A", category := some "A" }]
      { identifier := "SCORE_TOTAL_WEIGHTED_A", weight := some "WEIGHT", category := some "A" } []
      (by decide +kernel) (by simp)]
    decide +kernel
  · rw [hlog]
    decide +kernel

end Environment

end Rubric
