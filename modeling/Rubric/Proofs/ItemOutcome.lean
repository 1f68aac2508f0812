import Rubric.Engine
import Rubric.Proofs.Aggregate
import Rubric.Proofs.Placement

namespace Rubric

/-- An outcome is recorded in the first result of an item. -/
def AssessmentResult.HasOutcome (result : AssessmentResult) (item outcome : String) : Prop :=
  ∃ r, result.itemResult? item = some r ∧ (r.outcome? outcome).isSome = true

namespace Environment

variable {env : Environment}

theorem isSome_outcome?_scoreItem {item : Item} {r : ItemResult} {outcome : String}
    (h : (Variable.find? (r.outcomes.ensureAll item.outcomes) outcome).isSome = true)
    (result : String) :
    ((env.scoreItem item result r).value.outcome? outcome).isSome = true := by
  have hstable : (env.itemScope item r.responses result).Stable
      fun store => (Variable.find? store outcome).isSome = true :=
    fun _ d value _ hstore => Store.isSome_find?_write d value hstore
  exact hstable.process item.processing h

theorem isSome_outcome?_of_declared {item : Item} {d : OutcomeDeclaration} (h : d ∈ item.outcomes)
    (result : String) (r : ItemResult) :
    ((env.scoreItem item result r).value.outcome? d.identifier).isSome = true :=
  isSome_outcome?_scoreItem (Store.isSome_find?_ensureAll h) result

theorem isSome_outcome?_of_recorded {r : ItemResult} {outcome : String}
    (h : (r.outcome? outcome).isSome = true) (item : Item) (result : String) :
    ((env.scoreItem item result r).value.outcome? outcome).isSome = true := by
  apply isSome_outcome?_scoreItem
  have hrecorded : (Variable.find? r.outcomes outcome).isSome = true := h
  rw [Store.find?_ensureAll, Option.isSome_or, hrecorded, Bool.true_or]

theorem isSome_itemResult?_scoreItemIn {result : AssessmentResult} {identifier : String}
    (h : (result.itemResult? identifier).isSome = true) (item : Item) :
    ((env.scoreItemIn item result).value.itemResult? identifier).isSome = true := by
  rw [itemResult?_scoreItemIn]
  split
  · rwa [Option.isSome_map]
  · exact h

theorem hasOutcome_scoreItemIn {result : AssessmentResult} {identifier outcome : String}
    (h : result.HasOutcome identifier outcome) (item : Item) :
    (env.scoreItemIn item result).value.HasOutcome identifier outcome := by
  obtain ⟨r, hr, houtcome⟩ := h
  unfold AssessmentResult.HasOutcome
  rw [itemResult?_scoreItemIn, hr]
  split
  · exact ⟨_, rfl, isSome_outcome?_of_recorded houtcome item result.identifier⟩
  · exact ⟨r, rfl, houtcome⟩

theorem hasOutcome_scoreItemIn_self {result : AssessmentResult} {item : Item}
    (h : (result.itemResult? item.identifier).isSome = true) {d : OutcomeDeclaration}
    (hd : d ∈ item.outcomes) :
    (env.scoreItemIn item result).value.HasOutcome item.identifier d.identifier := by
  obtain ⟨r, hr⟩ := Option.isSome_iff_exists.1 h
  unfold AssessmentResult.HasOutcome
  rw [itemResult?_scoreItemIn, if_pos rfl, hr]
  exact ⟨_, rfl, isSome_outcome?_of_declared hd result.identifier r⟩

theorem hasOutcome_scoreItems {items : List Item} {result : AssessmentResult}
    {identifier outcome : String} (h : result.HasOutcome identifier outcome) :
    (env.scoreItems items result).value.HasOutcome identifier outcome := by
  induction items generalizing result with
  | nil => exact h
  | cons item items ih => exact ih (hasOutcome_scoreItemIn h item)

theorem hasOutcome_of_mem {items : List Item} {item : Item} (hitem : item ∈ items)
    {result : AssessmentResult} (h : (result.itemResult? item.identifier).isSome = true)
    {d : OutcomeDeclaration} (hd : d ∈ item.outcomes) :
    (env.scoreItems items result).value.HasOutcome item.identifier d.identifier := by
  induction items generalizing result with
  | nil => cases hitem
  | cons other items ih =>
    rcases List.mem_cons.1 hitem with rfl | hrest
    · change (env.scoreItems items (env.scoreItemIn item result).value).value.HasOutcome _ _
      exact hasOutcome_scoreItems (hasOutcome_scoreItemIn_self h hd)
    · exact ih hrest (isSome_itemResult?_scoreItemIn h other)

end Environment

theorem recordedUnder_of_itemResult? {result : AssessmentResult} {item outcome : String}
    {r : ItemResult} {v : Variable} (hr : result.itemResult? item = some r)
    (hv : r.outcome? outcome = some v) :
    ∃ before later,
      recordedUnder result.itemResults (outcomeKey item outcome) = before ++ v :: later := by
  obtain ⟨hid, front, back, hsplit, -⟩ := List.find?_eq_some_iff_append.1 hr
  obtain ⟨hvid, earlier, after, hvars, -⟩ := List.find?_eq_some_iff_append.1 hv
  rw [beq_iff_eq] at hid hvid
  let key := outcomeKey item outcome
  let matching (w : Variable) : Bool := outcomeKey item w.identifier == key
  refine ⟨recordedUnder front key ++ earlier.filter matching,
    after.filter matching ++ recordedUnder back key, ?_⟩
  simp only [recordedUnder, hsplit, List.flatMap_append, List.flatMap_cons, hvars,
    List.filter_append, List.filter_cons, hid, hvid, beq_self_eq_true, ↓reduceIte,
    List.append_assoc, List.cons_append, key, matching]

theorem Scope.itemOutcome?_unweighted (s : Scope) {test : Test} {results : List ItemResult}
    {item outcome : String} (h : (test.itemRef? item).isSome = true) {v : Variable}
    (hv : (recordedUnder results (outcomeKey item outcome)).getLast? = some v)
    (missing : Severity) :
    s.itemOutcome? test (.ofResults results) item outcome none missing =
      pure (some (v.value.named (outcomeKey item outcome))) := by
  obtain ⟨ref, href⟩ := Option.isSome_iff_exists.1 h
  simp only [itemOutcome?, href, OutcomeTable.find?_ofResults, hv]

namespace Engine

theorem score_all {engine : Engine} {test : Test} (h : engine.test = some test)
    (result : AssessmentResult) :
    (engine.score .all result).value =
      (engine.environment.scoreTest test
        (engine.environment.scoreItems engine.items result).value).value := by
  simp [score, Stage.includesResponses, Stage.includesOutcomes, h]

/-- The rules of a test see what scoring has left in the first result of an item exactly when the
last outcome recorded under the same key, if it is a later one, holds the same. -/
theorem itemOutcome?_sees_first_iff {engine : Engine} {test : Test}
    (htest : engine.test = some test) {item : Item} (hitem : item ∈ engine.items) {ref : ItemRef}
    (href : ref ∈ test.itemRefs) (hrefItem : ref.identifier = item.identifier)
    {result : AssessmentResult}
    (hresult : (result.itemResult? item.identifier).isSome = true) {d : OutcomeDeclaration}
    (hd : d ∈ item.outcomes) :
    let scored := (engine.environment.scoreItems engine.items result).value
    let final := (engine.score .all result).value
    let s := engine.environment.testScope test scored.itemResults scored.identifier
    let key := outcomeKey item.identifier d.identifier
    final = (engine.environment.scoreTest test scored).value ∧
    final.itemResults = scored.itemResults ∧
    ∃ r v before later, scored.itemResult? item.identifier = some r ∧
      r.outcome? d.identifier = some v ∧
      final.itemScalar? item.identifier d.identifier = v.scalar ∧
      recordedUnder scored.itemResults key = before ++ v :: later ∧
      s.itemOutcome? test (.ofResults scored.itemResults) item.identifier d.identifier none .error =
        pure (some ((later.getLast?.getD v).value.named key)) ∧
      ((s.itemOutcome? test (.ofResults scored.itemResults) item.identifier d.identifier none
          .error).value = some (v.value.named key) ↔
        ∀ w, later.getLast? = some w → w.value.named key = v.value.named key) := by
  intro scored final s key
  have hfinal : final = (engine.environment.scoreTest test scored).value := score_all htest result
  have hresults : final.itemResults = scored.itemResults := by
    rw [hfinal, Environment.itemResults_scoreTest]
  obtain ⟨r, hr, houtcome⟩ : scored.HasOutcome item.identifier d.identifier :=
    Environment.hasOutcome_of_mem hitem hresult hd
  obtain ⟨v, hv⟩ := Option.isSome_iff_exists.1 houtcome
  obtain ⟨before, later, hrecorded⟩ := recordedUnder_of_itemResult? hr hv
  have hscalar : final.itemScalar? item.identifier d.identifier = v.scalar := by
    have hfirst : final.itemResult? item.identifier = some r := by
      rw [← hr, AssessmentResult.itemResult?, hresults]
      rfl
    simp [AssessmentResult.itemScalar?, hfirst, hv]
  have hlast : (recordedUnder scored.itemResults key).getLast? = some (later.getLast?.getD v) := by
    rw [hrecorded, List.getLast?_append, List.getLast?_cons, Option.some_or]
  have hseen : s.itemOutcome? test (.ofResults scored.itemResults) item.identifier d.identifier none
      .error = pure (some ((later.getLast?.getD v).value.named key)) :=
    s.itemOutcome?_unweighted (hrefItem ▸ Test.isSome_itemRef? href) hlast .error
  refine ⟨hfinal, hresults, r, v, before, later, hr, hv, hscalar, hrecorded, hseen, ?_⟩
  rw [hseen, Logged.value_pure, Option.some_inj]
  cases later.getLast? with
  | none => simp
  | some w => simp

def oneItem : Engine where
  items := [{
    identifier := "ITM-1"
    outcomes := [{ identifier := "SCORE", baseType := .float, default := some "1" }] }]
  test := some { identifier := "TST", itemRefs := [{ identifier := "ITM-1" }] }
  environment := { registry := .standard .textual, config := {} }

def oneItemSeen (result : AssessmentResult) : Option Value :=
  let test : Test := { identifier := "TST", itemRefs := [{ identifier := "ITM-1" }] }
  let scored := (oneItem.environment.scoreItems oneItem.items result).value
  let s := oneItem.environment.testScope test scored.itemResults scored.identifier
  (s.itemOutcome? test (.ofResults scored.itemResults) "ITM-1" "SCORE" none .error).value

theorem oneItemSeen_of_one_result :
    let result : AssessmentResult := {
      identifier := "R1"
      itemResults := [{ identifier := "ITM-1" }] }
    let scored := (oneItem.environment.scoreItems oneItem.items result).value
    ∃ r v, scored.itemResult? "ITM-1" = some r ∧
      r.outcome? "SCORE" = some v ∧ oneItemSeen result = some (v.value.named "ITM-1.SCORE") := by
  intro result scored
  obtain ⟨-, -, r, v, before, later, hr, hv, -, hrecorded, -, hiff⟩ :=
    @itemOutcome?_sees_first_iff oneItem _ rfl _ (.head _) _ (.head _) rfl result
      (by decide +kernel) _ (.head _)
  refine ⟨r, v, hr, hv, hiff.2 fun w hw => ?_⟩
  have hone : (recordedUnder scored.itemResults (outcomeKey "ITM-1" "SCORE")).length = 1 := by
    decide +kernel
  have hlater : later = [] := by
    rw [hrecorded, List.length_append, List.length_cons] at hone
    exact List.length_eq_zero_iff.1 (by omega)
  rw [hlater] at hw
  cases hw

/-- With a second, older result of the item the rules of the test see its score. -/
theorem oneItemSeen_of_repeated_result :
    let result : AssessmentResult := {
      identifier := "R1"
      itemResults := [{ identifier := "ITM-1" },
        { identifier := "ITM-1", outcomes := [.single "SCORE" .float "5"] }] }
    (oneItem.score .all result).value.itemScalar? "ITM-1" "SCORE" = some "1" ∧
      oneItemSeen result = some ((Value.single .float "5").named "ITM-1.SCORE") := by
  decide +kernel

end Engine

end Rubric
