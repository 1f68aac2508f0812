import Rubric.Proofs.Frame

namespace Rubric

theorem Node.exists_within {root : Option Node}
    (h : ∀ node ∈ root, ∀ x ∈ node.reads, x ∉ node.targets) :
    ∃ W : Set String, ∀ n ∈ statementsUnder root, n.Within Wᶜ W := by
  cases root with
  | none => exact ⟨∅, fun n hn => nomatch hn⟩
  | some node =>
    have hnode : node.Within {x | x ∈ node.targets}ᶜ {x | x ∈ node.targets} :=
      ⟨fun x hread htarget => h node rfl x hread htarget, fun x hx => hx⟩
    exact ⟨_, fun n hn => hnode.child hn⟩

namespace Scope

variable {s : Scope} {W : Set String} {nodes : List Node} {store : Store}

theorem executeAll_executeAll (h : ∀ n ∈ nodes, n.Within Wᶜ W) (hprepared : s.Prepared store) :
    s.executeAll nodes (s.executeAll nodes store).value = s.executeAll nodes store := by
  have hunassigned : ∀ n ∈ nodes, n.Within Set.univ W := fun n hn => (h n hn).toUniv
  have hstores : Set.EqOn (Variable.find? store)
      (Variable.find? (s.executeAll nodes store).value) Wᶜ :=
    fun x hx => (s.find?_executeAll_of_not_mem hunassigned hx store).symm
  -- Both runs make the writes `ws`: the second one starts where those have been made already.
  obtain ⟨ws, log, hws, hfirst, hsecond⟩ := (s.sameAnswers_self Wᶜ W).executeAll hstores h
  have hvalue : (s.executeAll nodes store).value = store.writeAll ws := by rw [hfirst]
  have hdeclared : ∀ w ∈ ws, (Variable.find? store w.target).isSome = true :=
    fun w hw => hprepared _ _ (hws w hw).2
  rw [hvalue, Store.writeAll_writeAll_self hdeclared] at hsecond
  rw [hvalue, hfirst]
  exact hsecond

theorem executeAll_ensureAll_again (s : Scope) {ds : List OutcomeDeclaration}
    (hs : ∀ x d, s.outcome? x = some d → d ∈ ds) (h : ∀ n ∈ nodes, n.Within Wᶜ W)
    (old : Store) :
    let run := s.executeAll nodes (old.ensureAll ds)
    s.executeAll nodes (run.value.ensureAll ds) = run := by
  intro run
  have hkept : run.value.ensureAll ds = run.value := by
    apply Store.ensureAll_of_isSome
    intro d hd
    exact (s.stable_isSome_find? d.identifier).executeAll nodes (Store.isSome_find?_ensureAll hd)
  rw [hkept]
  exact executeAll_executeAll h (prepared_ensureAll hs old)

end Scope

namespace Environment

variable (env : Environment)

theorem scoreItem_scoreItem (item : Item)
    (h : ∀ root ∈ item.processing, ∀ x ∈ root.reads, x ∉ root.targets) (result : String)
    (r : ItemResult) :
    env.scoreItem item result (env.scoreItem item result r).value =
      env.scoreItem item result r := by
  obtain ⟨W, hW⟩ := Node.exists_within h
  have hagain := (env.itemScope item r.responses result).executeAll_ensureAll_again
    (fun _ _ => Scope.mem_of_outcome?_item rfl) hW r.outcomes
  simp only [scoreItem, Scope.process_eq_executeAll, Logged.value_bind, Logged.value_pure, hagain]

theorem scoreTestResult_scoreTestResult (test : Test)
    (h : ∀ root ∈ test.processing, ∀ x ∈ root.reads, x ∉ root.targets)
    (itemResults : List ItemResult) (result : String) (r : TestResult) :
    env.scoreTestResult test itemResults result
        (env.scoreTestResult test itemResults result r).value =
      env.scoreTestResult test itemResults result r := by
  obtain ⟨W, hW⟩ := Node.exists_within h
  have hagain := (env.testScope test itemResults result).executeAll_ensureAll_again
    (fun _ _ => Scope.mem_of_outcome?_test rfl) hW r.outcomes
  simp only [scoreTestResult, Scope.process_eq_executeAll, Logged.value_bind, Logged.value_pure,
    hagain]

theorem changeTestResult_changeTestResult {f : TestResult → Logged TestResult}
    (hf : ∀ r, (f r).value.identifier = r.identifier) (hagain : ∀ r, f (f r).value = f r)
    (identifier : String) (rs : List TestResult) :
    changeTestResult identifier f (changeTestResult identifier f rs).value =
      changeTestResult identifier f rs := by
  induction rs with
  | nil => simp [changeTestResult, hf, hagain]
  | cons r rs ih =>
    by_cases hr : r.identifier = identifier
    · simp [changeTestResult, hr, hf, hagain]
    · simp [changeTestResult, hr, ih]

/-- Scoring what was scored before changes nothing and records the same, for rules that read none of
the outcomes that they assign. -/
theorem scoring_again :
    (∀ item : Item, (∀ root ∈ item.processing, ∀ x ∈ root.reads, x ∉ root.targets) →
      ∀ (result : String) (r : ItemResult),
        let run := env.scoreItem item result r
        env.scoreItem item result run.value = run) ∧
    ∀ test : Test, (∀ root ∈ test.processing, ∀ x ∈ root.reads, x ∉ root.targets) →
      ∀ result : AssessmentResult,
        let run := env.scoreTest test result
        env.scoreTest test run.value = run := by
  constructor
  · intro item h result r
    exact env.scoreItem_scoreItem item h result r
  · intro test h result
    have hplaced := changeTestResult_changeTestResult (fun _ => rfl)
      (env.scoreTestResult_scoreTestResult test h result.itemResults result.identifier)
      test.identifier result.testResults
    simp only [scoreTest, Logged.value_bind, Logged.value_pure, hplaced]

def copyingItem : Item where
  identifier := "ITM-1"
  outcomes := [.number "SCORE"]
  processing := some {
    name := "responseProcessing"
    children := [.assigning "SCORE" (.reading "RESPONSE")] }

def copyingTest : Test where
  identifier := "TST"
  itemRefs := [{ identifier := "ITM-1" }]
  outcomes := [.number "TOTAL"]
  processing := some {
    name := "outcomeProcessing"
    children := [.assigning "TOTAL" (.reading "ITM-1.SCORE")] }

theorem scoring_copied_again :
    let env : Environment := { registry := {}, config := {} }
    let r : ItemResult :=
      { identifier := "ITM-1", responses := [.single "RESPONSE" .float "2"] }
    let item := env.scoreItem copyingItem "R1" r
    let result : AssessmentResult := { identifier := "R1", itemResults := [item.value] }
    let test := env.scoreTest copyingTest result
    item.value.outcomes = [.single "SCORE" .float "2"] ∧
      test.value.testResults = [⟨"TST", [.single "TOTAL" .float "2"]⟩] ∧
      env.scoreItem copyingItem "R1" item.value = item ∧
      env.scoreTest copyingTest test.value = test := by
  intro env r item result test
  obtain ⟨hitems, htests⟩ := scoring_again env
  refine ⟨by decide +kernel, by decide +kernel, hitems copyingItem ?_ "R1" r,
    htests copyingTest ?_ result⟩
  · intro root hroot
    cases hroot
    decide +kernel
  · intro root hroot
    cases hroot
    decide +kernel

end Environment

end Rubric
