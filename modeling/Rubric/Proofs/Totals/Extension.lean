import Rubric.Proofs.Subjects
import Rubric.Proofs.Totals.Run

namespace Rubric

namespace Test

variable {test : Test} {x : String}

/-- The identifiers of the derived totals that no assignment of a test targets. -/
def addedNames (test : Test) : List String :=
  test.missingTotals.map DerivedTotal.identifier

theorem children_processingRoot :
    test.processingRoot.children = Node.statementsUnder test.processing := by
  unfold processingRoot
  cases test.processing with
  | none => rfl
  | some root => rfl

theorem mem_authoredTargets {root : Node} (h : root ∈ test.processing) (hx : x ∈ root.targets) :
    x ∈ test.authoredTargets := by
  obtain ⟨n, hn, hstatement, hattribute⟩ := Node.mem_targets.1 hx
  have hid : n.identifier = x := Node.identifier_of_filledAttribute? hattribute
  have hroot : test.processing = some root := h
  simp only [authoredTargets, hroot, List.mem_map, List.mem_filter, decide_eq_true_eq]
  rw [Node.descendants_eq_preorder]
  exact ⟨n, ⟨hn, hstatement⟩, hid⟩

theorem mem_addedNames :
    x ∈ test.addedNames ↔
      x ∈ test.derivedTotals.map DerivedTotal.identifier ∧ x ∉ test.authoredTargets := by
  simp only [addedNames, missingTotals, List.mem_map, List.mem_filter, Bool.not_eq_true',
    List.contains_eq_mem, decide_eq_false_iff_not]
  constructor
  · rintro ⟨d, ⟨hd, hmissing⟩, rfl⟩
    exact ⟨⟨d, hd, rfl⟩, hmissing⟩
  · rintro ⟨⟨d, hd, rfl⟩, hmissing⟩
    exact ⟨d, ⟨hd, hmissing⟩, rfl⟩

theorem within_authored
    (h : ∀ root ∈ test.processing, ∀ x ∈ root.reads, x ∉ test.addedNames) :
    ∀ n ∈ test.processingRoot.children,
      n.Within {x | x ∉ test.addedNames} {x | x ∉ test.addedNames} := by
  rw [children_processingRoot]
  apply Node.Within.statementsUnder
  intro root hroot
  refine ⟨h root hroot, fun x hx hadded => ?_⟩
  exact (mem_addedNames.1 hadded).2 (mem_authoredTargets hroot hx)

theorem outcome?_of_not_mem_addedNames (h : x ∉ test.addedNames) :
    test.withDerivedTotals.outcome? x = test.outcome? x := by
  have hnone : x ∉ test.missingTotals.map DerivedTotal.identifier := h
  rw [outcome?_withDerivedTotals, if_neg hnone, Option.or_none]

end Test

theorem filter_foldl_declareTotal {names : List String} {totals : List DerivedTotal}
    (h : ∀ d ∈ totals, d.identifier ∈ names) (ds : List OutcomeDeclaration) :
    (totals.foldl declareTotal ds).filter (fun d => d.identifier ∉ names) =
      ds.filter fun d => d.identifier ∉ names := by
  induction totals generalizing ds with
  | nil => rfl
  | cons d totals ih =>
    have hd : d.identifier ∈ names := h d (.head _)
    rw [List.foldl_cons, ih fun e he => h e (.tail _ he), declareTotal]
    split
    · simp [OutcomeDeclaration.number, hd]
    · rfl

theorem Test.filter_outcomes_withDerivedTotals (test : Test) :
    test.withDerivedTotals.outcomes.filter (fun d => d.identifier ∉ test.addedNames) =
      test.outcomes.filter fun d => d.identifier ∉ test.addedNames :=
  filter_foldl_declareTotal (fun _ hd => List.mem_map_of_mem hd) test.outcomes

namespace Environment

variable {test : Test}

theorem eqOn_ensureAll_withDerivedTotals (test : Test) (old : Store) :
    Set.EqOn (Variable.find? (old.ensureAll test.outcomes))
      (Variable.find? (old.ensureAll test.withDerivedTotals.outcomes))
      {x | x ∉ test.addedNames} := by
  intro x hx
  have hdeclared := Test.outcome?_of_not_mem_addedNames hx
  rw [Test.outcome?, Test.outcome?] at hdeclared
  rw [Store.find?_ensureAll, Store.find?_ensureAll, hdeclared]

/-- The rules of a test make the same writes and the same record in the extended test. -/
theorem exists_writes_of_authored (env : Environment)
    (h : ∀ root ∈ test.processing, ∀ x ∈ root.reads, x ∉ test.addedNames)
    (itemResults : List ItemResult) (result : String) (old : Store) :
    let rules := test.processingRoot.children
    let start := old.ensureAll test.outcomes
    let start' := old.ensureAll test.withDerivedTotals.outcomes
    ∃ ws log, (∀ w ∈ ws, w.target ∉ test.addedNames) ∧
      (env.testScope test itemResults result).executeAll rules start =
        ⟨start.writeAll ws, log⟩ ∧
      (env.testScope test.withDerivedTotals itemResults result).executeAll rules start' =
        ⟨start'.writeAll ws, log⟩ := by
  intro rules start start'
  let s := env.testScope test itemResults result
  have hanswers : s.SameAnswers (env.testScope test.withDerivedTotals itemResults result)
      {x | x ∉ test.addedNames} {x | x ∉ test.addedNames} :=
    Scope.sameAnswers_of_itemRefs ⟨rfl, rfl, rfl⟩ rfl rfl rfl rfl
      fun x hx => Test.outcome?_of_not_mem_addedNames hx
  obtain ⟨ws, log, hws, hrun, hrun'⟩ := hanswers.executeAll
    (eqOn_ensureAll_withDerivedTotals test old) (Test.within_authored h)
  exact ⟨ws, log, fun w hw => (hws w hw).1, hrun, hrun'⟩

theorem scoreTestResult_withDerivedTotals (env : Environment)
    (h : ∀ root ∈ test.processing, ∀ x ∈ root.reads, x ∉ test.addedNames)
    (itemResults : List ItemResult) (result : String) (r : TestResult) :
    let s := env.testScope test.withDerivedTotals itemResults result
    let authored := env.scoreTestResult test itemResults result r
    let extended := env.scoreTestResult test.withDerivedTotals itemResults result r
    ∃ store more,
      s.executeAll test.processingRoot.children
        (r.outcomes.ensureAll test.withDerivedTotals.outcomes) = ⟨store, authored.log⟩ ∧
      s.executeAll (test.missingTotals.map DerivedTotal.statement) store =
        ⟨extended.value.outcomes, more⟩ ∧
      extended.log = authored.log ++ more ∧
      extended.value.outcomes.without test.addedNames =
        authored.value.outcomes.without test.addedNames := by
  intro s authored extended
  let start := r.outcomes.ensureAll test.outcomes
  let start' := r.outcomes.ensureAll test.withDerivedTotals.outcomes
  -- `ws` are the writes of the rules of the test in both runs, `us` those of the added rules.
  obtain ⟨ws, log, hws, hrun, hrun'⟩ :=
    env.exists_writes_of_authored h itemResults result r.outcomes
  obtain ⟨us, ulog, hus, hadded⟩ :=
    s.exists_writes (DerivedTotal.within_statements test.missingTotals) (start'.writeAll ws)
  have hauthored : authored = ⟨{ r with outcomes := start.writeAll ws }, log⟩ := by
    rw [Test.children_processingRoot] at hrun
    exact env.scoreTestResult_of_executeAll hrun
  have hextended : extended =
      ⟨{ r with outcomes := (start'.writeAll ws).writeAll us }, log ++ ulog⟩ := by
    apply env.scoreTestResult_of_executeAll
    have hrules : Node.statementsUnder test.withDerivedTotals.processing =
        test.processingRoot.children ++ test.missingTotals.map DerivedTotal.statement := rfl
    rw [hrules, Scope.executeAll_append, hrun', Logged.mk_bind, hadded]
  have hstart : start'.without test.addedNames = start.without test.addedNames := by
    rw [Store.without_ensureAll, Store.without_ensureAll, Test.filter_outcomes_withDerivedTotals]
  refine ⟨start'.writeAll ws, ulog, ?_, ?_, ?_, ?_⟩
  · rw [hauthored]
    exact hrun'
  · rw [hextended]
    exact hadded
  · rw [hextended, hauthored]
  · rw [hextended, hauthored]
    calc Store.without test.addedNames ((start'.writeAll ws).writeAll us)
        = (start'.writeAll ws).without test.addedNames :=
          Store.without_writeAll_of_mem (fun u hu => (hus u hu).1) _
      _ = (start'.without test.addedNames).writeAll ws :=
          Store.without_writeAll_of_not_mem hws start'
      _ = (start.without test.addedNames).writeAll ws := by rw [hstart]
      _ = (start.writeAll ws).without test.addedNames :=
          (Store.without_writeAll_of_not_mem hws start).symm

/-- Derived totals only add to what the rules of a test do: outcomes beside the ones of that test,
which keep their contents and their order, and a record after the record of its rules. -/
theorem derivedTotals_extend (env : Environment)
    (h : ∀ root ∈ test.processing, ∀ x ∈ root.reads, x ∉ test.addedNames)
    (result : AssessmentResult) :
    let authored := env.scoreTest test result
    let extended := env.scoreTest test.withDerivedTotals result
    let s := env.testScope test.withDerivedTotals result.itemResults result.identifier
    let start := startingResult test.identifier result.testResults
    extended.value.identifier = authored.value.identifier ∧
    extended.value.itemResults = authored.value.itemResults ∧
    ∃ before r r' after store more,
      authored.value.testResults = before ++ r :: after ∧
      extended.value.testResults = before ++ r' :: after ∧
      (∀ x ∈ before, x.identifier ≠ test.identifier) ∧
      r.identifier = test.identifier ∧ r'.identifier = test.identifier ∧
      r'.outcomes.without test.addedNames = r.outcomes.without test.addedNames ∧
      s.executeAll test.processingRoot.children
        (start.outcomes.ensureAll test.withDerivedTotals.outcomes) = ⟨store, authored.log⟩ ∧
      s.executeAll (test.missingTotals.map DerivedTotal.statement) store =
        ⟨r'.outcomes, more⟩ ∧
      extended.log = authored.log ++ more := by
  intro authored extended s start
  have hstart : start.identifier = test.identifier := identifier_startingResult _ _
  obtain ⟨before, after, hbefore, -, hchange⟩ := exists_place test.identifier result.testResults
  obtain ⟨store, more, hrun, hadded, hlog, hwithout⟩ :=
    env.scoreTestResult_withDerivedTotals h result.itemResults result.identifier start
  have hauthored : authored.log =
      (env.scoreTestResult test result.itemResults result.identifier start).log :=
    log_scoreTest test result
  have hextended : extended.log =
      (env.scoreTestResult test.withDerivedTotals result.itemResults result.identifier start).log :=
    log_scoreTest test.withDerivedTotals result
  refine ⟨rfl, rfl, before, _, _, after, store, more, congrArg Logged.value (hchange _),
    congrArg Logged.value (hchange _), hbefore, hstart, hstart, hwithout, ?_, hadded, ?_⟩
  · rw [hauthored]
    exact hrun
  · rw [hauthored, hextended]
    exact hlog

/-- A test with a total of its own in the place of a derived one. -/
def authoringTest : Test where
  identifier := "TST"
  itemRefs := (sampleTest "A").itemRefs
  outcomes := [.number "SCORE_TOTAL", .number "BEST"]
  processing := some {
    name := "outcomeProcessing"
    children := [
      .assigning "SCORE_TOTAL" (.constant "float" "7"),
      .assigning "BEST" (.reading "ITM-1.SCORE")] }

theorem derivedTotals_extend_authored_total :
    let authored := standard.scoreTest authoringTest sampleResult
    let extended := standard.scoreTest authoringTest.withDerivedTotals sampleResult
    authored.value.testResults =
      [⟨"TST", [.single "SCORE_TOTAL" .float "7", .single "BEST" .float "2"]⟩] ∧
    (extended.value.testResults.map fun r => r.outcomes.map Variable.identifier) =
      [["SCORE_TOTAL", "BEST", "SCORE_TOTAL_WEIGHTED", "SCORE_TOTAL_A",
        "SCORE_TOTAL_WEIGHTED_A"]] ∧
    (∃ r ∈ authored.value.testResults, ∃ r' ∈ extended.value.testResults,
      r'.outcomes.without authoringTest.addedNames =
        r.outcomes.without authoringTest.addedNames) ∧
    ∃ more, extended.log = authored.log ++ more := by
  intro authored extended
  have hreads : ∀ root ∈ authoringTest.processing, ∀ x ∈ root.reads,
      x ∉ authoringTest.addedNames := by
    intro root hroot
    cases hroot
    decide +kernel
  obtain ⟨-, -, before, r, r', after, store, more, hr, hr', -, -, -, hwithout, -, -, hlog⟩ :=
    derivedTotals_extend standard hreads sampleResult
  have hmem : r ∈ authored.value.testResults := by simp [authored, hr]
  have hmem' : r' ∈ extended.value.testResults := by simp [extended, hr']
  exact ⟨by decide +kernel, by decide +kernel, ⟨r, hmem, r', hmem', hwithout⟩, more, hlog⟩

end Environment

end Rubric
