import Rubric.Proofs.Totals.Run
import Rubric.Proofs.UnitFactor

namespace Rubric

/-- The number that the canonical text of a number denotes. -/
def reread? (x : Float) : Option Float :=
  (readNumber (Decimal.canonical x)).toOption

/-- A number that its canonical text denotes, so that nothing is lost when the number is written. -/
def Denoted (x : Float) : Prop :=
  reread? x = some x

instance {x : Float} : Decidable (Denoted x) :=
  inferInstanceAs (Decidable (_ = _))

theorem bind_reread?_eq_self_iff {o : Option Float} :
    o.bind reread? = o ↔ ∀ x ∈ o, Denoted x := by
  cases o with
  | none => simp
  | some x => simp [Denoted]

theorem weighed?_one (x : Float) : weighed? (some 1.0) x = reread? x := by
  rw [weighed?, float_mul_one, reread?]

/-- The item reference with a weight of one for the derived totals. -/
def ItemRef.weighedOnce (ref : ItemRef) : ItemRef :=
  { ref with weights := ref.weights.insert DerivedTotal.weightName 1.0 }

section weighedOnce

variable {test test' : Test} {before after : List ItemRef} {ref : ItemRef}
  (hrefs : test.itemRefs = before ++ ref :: after)
  (hrefs' : test'.itemRefs = before ++ ref.weighedOnce :: after)
include hrefs hrefs'

namespace Test

theorem categories_weighedOnce : test'.categories = test.categories := by
  simp only [categories, hrefs, hrefs', List.flatMap_append, List.flatMap_cons]
  rfl

theorem factor?_weighedOnce_self (hfirst : ∀ r ∈ before, r.identifier ≠ ref.identifier) :
    test'.factor? ref.identifier DerivedTotal.weightName = some 1.0 ∧
      test.factor? ref.identifier DerivedTotal.weightName =
        ref.weights.get? DerivedTotal.weightName := by
  have hbefore : (before.find? fun r => r.identifier == ref.identifier) = none := by
    simpa using hfirst
  simp [factor?, itemRef?, hrefs, hrefs', List.find?_append, hbefore, ItemRef.weighedOnce,
    Dictionary.get?_insert_self]

theorem factor?_weighedOnce_of_ne {item weight : String}
    (h : (∃ r ∈ before, r.identifier = ref.identifier) ∨ item ≠ ref.identifier ∨
      weight ≠ DerivedTotal.weightName) :
    test'.factor? item weight = test.factor? item weight := by
  have hid : ref.weighedOnce.identifier = ref.identifier := rfl
  simp only [factor?, itemRef?, hrefs, hrefs', List.find?_append, List.find?_cons, hid]
  by_cases hitem : ref.identifier = item
  · rcases h with ⟨r, hr, heq⟩ | hne | hweight
    · have hfound : (before.find? fun r => r.identifier == item).isSome = true := by
        rw [List.find?_isSome]
        exact ⟨r, hr, by simp [heq, hitem]⟩
      obtain ⟨first, hfirst⟩ := Option.isSome_iff_exists.1 hfound
      simp only [hfirst, Option.some_or]
    · exact absurd hitem.symm hne
    · cases before.find? fun r => r.identifier == item with
      | some first => rfl
      | none => simp [hitem, ItemRef.weighedOnce, Dictionary.get?_insert_of_ne _ _ hweight.symm]
  · have hother : (ref.identifier == item) = false := by simpa using hitem
    simp only [hother]

variable {results : List ItemResult} {outcome : String}

theorem share?_weighedOnce_of_ne {weight : Option String} {r : ItemRef}
    (h : (∃ r ∈ before, r.identifier = ref.identifier) ∨ r.identifier ≠ ref.identifier ∨
      weight ≠ some DerivedTotal.weightName) :
    test'.share? results outcome weight r = test.share? results outcome weight r := by
  cases weight with
  | none => rfl
  | some weight =>
    have hfactor := @factor?_weighedOnce_of_ne test test' before after ref hrefs hrefs'
      r.identifier weight (by simpa using h)
    simp only [share?, Option.bind_some, hfactor]

theorem share?_weighedOnce_self (hnone : ref.weights.get? DerivedTotal.weightName = none)
    (hfirst : ∀ r ∈ before, r.identifier ≠ ref.identifier) {r : ItemRef}
    (hr : r.identifier = ref.identifier) :
    let recorded := recordedNumber? results (outcomeKey ref.identifier outcome)
    test'.share? results outcome (some DerivedTotal.weightName) r = recorded.bind reread? ∧
      test.share? results outcome (some DerivedTotal.weightName) r = recorded := by
  intro recorded
  obtain ⟨hone, hfactor⟩ := factor?_weighedOnce_self hrefs hrefs' hfirst
  simp only [share?, Option.bind_some, hr, hone, hfactor, hnone]
  exact ⟨congrArg _ (funext weighed?_one), Option.bind_fun_some _⟩

/-- What items add to totals stays the same exactly when an earlier reference decides on the weights
of the item, or the canonical text of its number denotes that number. -/
theorem share?_weighedOnce_iff (hnone : ref.weights.get? DerivedTotal.weightName = none) :
    (∀ weight, test'.share? results outcome weight = test.share? results outcome weight) ↔
      (∃ r ∈ before, r.identifier = ref.identifier) ∨
        ∀ x ∈ recordedNumber? results (outcomeKey ref.identifier outcome), Denoted x := by
  by_cases hearlier : ∃ r ∈ before, r.identifier = ref.identifier
  · have hsame (weight : Option String) :
        test'.share? results outcome weight = test.share? results outcome weight :=
      funext fun r => share?_weighedOnce_of_ne hrefs hrefs' (.inl hearlier)
    exact iff_of_true hsame (.inl hearlier)
  · have hfirst : ∀ r ∈ before, r.identifier ≠ ref.identifier :=
      fun r hr heq => hearlier ⟨r, hr, heq⟩
    rw [or_iff_right hearlier, ← bind_reread?_eq_self_iff]
    constructor
    · intro hsame
      obtain ⟨hshare', hshare⟩ := @share?_weighedOnce_self test test' before after ref hrefs hrefs'
        results outcome hnone hfirst ref rfl
      rw [← hshare', hsame, hshare]
    · intro hneutral weight
      funext r
      by_cases hr : r.identifier = ref.identifier
      · by_cases hweight : weight = some DerivedTotal.weightName
        · obtain ⟨hshare', hshare⟩ := @share?_weighedOnce_self test test' before after ref hrefs
            hrefs' results outcome hnone hfirst r hr
          rw [hweight, hshare', hshare, hneutral]
        · exact share?_weighedOnce_of_ne hrefs hrefs' (.inr (.inr hweight))
      · exact share?_weighedOnce_of_ne hrefs hrefs' (.inr (.inl hr))

end Test

theorem DerivedTotal.sum_weighedOnce {d : DerivedTotal} {results : List ItemResult}
    (hshare : test'.share? results score d.weight = test.share? results score d.weight) :
    d.sum test' results = d.sum test results := by
  -- Categories and identifier of the reference are the same, and nothing else of it is looked at.
  have hcovers : d.covers ref.weighedOnce = d.covers ref := rfl
  have hsame : test.share? results score d.weight ref.weighedOnce =
      test.share? results score d.weight ref := rfl
  simp only [sum, hshare, hrefs, hrefs', List.filter_append, List.filter_cons, hcovers]
  split
  · simp only [List.filterMap_append, List.filterMap_cons, hsame]
  · rfl

end weighedOnce

namespace DerivedTotal

variable {s s' : Scope} {test test' : Test} {results : List ItemResult}

theorem value_executeAll_statements_congr {totals : List DerivedTotal}
    (hs : s.subject = .test test (.ofResults results))
    (hs' : s'.subject = .test test' (.ofResults results)) (houtcome : s'.outcome? = s.outcome?)
    (h : ∀ d ∈ totals, d.Writable s)
    (hsum : ∀ d ∈ totals, d.sum test' results = d.sum test results) (store : Store) :
    (s'.executeAll (totals.map statement) store).value =
      (s.executeAll (totals.map statement) store).value := by
  induction totals generalizing store with
  | nil => rfl
  | cons d totals ih =>
    obtain ⟨declaration, hd⟩ := Option.isSome_iff_exists.1 (h d (.head _)).declared
    have hd' : s'.outcome? d.identifier = some declaration := houtcome ▸ hd
    obtain ⟨hvalue, -⟩ := (h d (.head _)).regular.execute_statement hs hd store
    obtain ⟨hvalue', -⟩ := (h d (.head _)).regular.execute_statement hs' hd' store
    rw [hsum d (.head _), ← hvalue] at hvalue'
    simp only [List.map_cons, Scope.executeAll, Logged.value_bind, hvalue']
    exact ih (fun e he => h e (.tail _ he)) (fun e he => hsum e (.tail _ he)) _

end DerivedTotal

namespace Environment

variable {test test' : Test}

theorem value_scoreTestResult_withDerivedTotals (env : Environment)
    (h : test.processing = none) (itemResults : List ItemResult) (result : String)
    (r : TestResult) :
    (env.scoreTestResult test.withDerivedTotals itemResults result r).value =
      { r with
        outcomes := ((env.testScope test.withDerivedTotals itemResults result).executeAll
          (test.derivedTotals.map DerivedTotal.statement)
          (r.outcomes.ensureAll test.withDerivedTotals.outcomes)).value } := by
  have hroot : test.processingRoot.children = [] := by rw [Test.processingRoot, h]; rfl
  have hstatements : Node.statementsUnder test.withDerivedTotals.processing =
      test.derivedTotals.map DerivedTotal.statement := by
    change test.processingRoot.children ++ test.missingTotals.map DerivedTotal.statement = _
    rw [hroot, List.nil_append, test.missingTotals_of_processing_eq_none h]
  rw [← hstatements]
  exact congrArg Logged.value (env.scoreTestResult_of_executeAll rfl)

theorem value_scoreTest_of_sums (env : Environment) (hid : test'.identifier = test.identifier)
    (houtcomes : test'.outcomes = test.outcomes) (h : test.processing = none)
    (h' : test'.processing = none) (hderived : test'.derivedTotals = test.derivedTotals)
    (result : AssessmentResult)
    (hsum : ∀ d ∈ test.derivedTotals,
      d.sum test' result.itemResults = d.sum test result.itemResults) :
    (env.scoreTest test'.withDerivedTotals result).value =
      (env.scoreTest test.withDerivedTotals result).value := by
  have hmissing := test.missingTotals_of_processing_eq_none h
  have hmissing' := test'.missingTotals_of_processing_eq_none h'
  have hdeclared : test'.withDerivedTotals.outcomes = test.withDerivedTotals.outcomes := by
    simp only [Test.withDerivedTotals, hmissing, hmissing', hderived, houtcomes]
  have hscore (r : TestResult) :
      (env.scoreTestResult test'.withDerivedTotals result.itemResults result.identifier r).value =
      (env.scoreTestResult test.withDerivedTotals result.itemResults result.identifier r).value := by
    have hrun := @DerivedTotal.value_executeAll_statements_congr
      (env.testScope test.withDerivedTotals result.itemResults result.identifier)
      (env.testScope test'.withDerivedTotals result.itemResults result.identifier)
      test.withDerivedTotals test'.withDerivedTotals result.itemResults test.derivedTotals rfl rfl
      (funext fun x => congrArg (OutcomeDeclaration.find? · x) hdeclared)
      (fun d hd => Test.writable_of_mem_missingTotals (hmissing ▸ hd) env _ _) hsum
      (r.outcomes.ensureAll test.withDerivedTotals.outcomes)
    rw [value_scoreTestResult_withDerivedTotals env h',
      value_scoreTestResult_withDerivedTotals env h, hderived, hdeclared, hrun]
  have hid' : test'.withDerivedTotals.identifier = test.withDerivedTotals.identifier := hid
  simp only [scoreTest, Logged.value_bind, Logged.value_pure, hid',
    value_changeTestResult_congr (hscore _)]

/-- A weight of one on an item without the weight has no influence on the plain totals. To the
weighted ones the item now adds what is reread from the canonical text of its number. What items add
stays the same exactly when an earlier reference decides on the weights of the item or when the text
denotes the number, and then the test is scored alike. -/
theorem weight_of_one_neutral_iff (env : Environment) {before after : List ItemRef} {ref : ItemRef}
    (h : test.processing = none) (hrefs : test.itemRefs = before ++ ref :: after)
    (hnone : ref.weights.get? DerivedTotal.weightName = none) (result : AssessmentResult) :
    let test' := { test with itemRefs := before ++ ref.weighedOnce :: after }
    let results := result.itemResults
    let shares := test.share? results DerivedTotal.score
    let shares' := test'.share? results DerivedTotal.score
    let recorded := recordedNumber? results (outcomeKey ref.identifier DerivedTotal.score)
    let neutral := (∃ r ∈ before, r.identifier = ref.identifier) ∨ ∀ x ∈ recorded, Denoted x
    test'.derivedTotals = test.derivedTotals ∧
    (∀ d ∈ test.derivedTotals, d.weight = none → d.sum test' results = d.sum test results) ∧
    ((∀ r ∈ before, r.identifier ≠ ref.identifier) →
      shares (some DerivedTotal.weightName) ref = recorded ∧
        shares' (some DerivedTotal.weightName) ref = recorded.bind reread?) ∧
    (shares' = shares ↔ neutral) ∧
    (neutral → (env.scoreTest test'.withDerivedTotals result).value =
      (env.scoreTest test.withDerivedTotals result).value) := by
  intro test' results shares shares' recorded neutral
  have hrefs' : test'.itemRefs = before ++ ref.weighedOnce :: after := rfl
  have hderived : test'.derivedTotals = test.derivedTotals := by
    rw [Test.derivedTotals, Test.categories_weighedOnce hrefs hrefs', Test.derivedTotals]
  have hshares : shares' = shares ↔ neutral :=
    funext_iff.trans (Test.share?_weighedOnce_iff hrefs hrefs' hnone)
  refine ⟨hderived, ?_, ?_, hshares, ?_⟩
  · intro d _ hplain
    apply DerivedTotal.sum_weighedOnce hrefs hrefs'
    rw [hplain]
    rfl
  · intro hfirst
    exact (Test.share?_weighedOnce_self hrefs hrefs' hnone hfirst rfl).symm
  · intro hneutral
    have hsum : ∀ d ∈ test.derivedTotals, d.sum test' results = d.sum test results :=
      fun d _ => DerivedTotal.sum_weighedOnce hrefs hrefs' (congrFun (hshares.2 hneutral) d.weight)
    exact @value_scoreTest_of_sums test test' env rfl rfl h h hderived result hsum

/-- Two items with a number each, the first one with some weights. -/
def pairedTest (weights : Dictionary Float) : Test where
  identifier := "TST"
  itemRefs := [{ identifier := "ITM-1", weights }, { identifier := "ITM-2" }]

def pairedResult (first second : String) : AssessmentResult where
  identifier := "R1"
  itemResults := [
    { identifier := "ITM-1", outcomes := [.single "SCORE" .float first] },
    { identifier := "ITM-2", outcomes := [.single "SCORE" .float second] }]

theorem weight_of_one_kept_short_scores :
    let weighed := pairedTest (Dictionary.insert {} "WEIGHT" 1.0)
    let result := pairedResult "2.25" "3.5"
    (standard.scoreTest weighed.withDerivedTotals result).value =
        (standard.scoreTest (pairedTest {}).withDerivedTotals result).value ∧
      (standard.scoreTest weighed.withDerivedTotals result).value.testScalar? "TST"
        "SCORE_TOTAL_WEIGHTED" = some "5.75" := by
  intro weighed result
  obtain ⟨-, -, -, -, hkept⟩ := @weight_of_one_neutral_iff (pairedTest {}) standard []
    [{ identifier := "ITM-2" }] { identifier := "ITM-1" } rfl rfl rfl result
  have hrecorded : recordedNumber? result.itemResults "ITM-1.SCORE" = some 2.25 := by
    decide +kernel
  have hdenoted : ∀ x ∈ recordedNumber? result.itemResults "ITM-1.SCORE", Denoted x := by
    rw [hrecorded]
    intro x hx
    cases hx
    decide +kernel
  exact ⟨hkept (.inr hdenoted), by decide +kernel⟩

/-- Where numbers are recorded with more digits than a canonical text has, the last digit of a total
can change. -/
theorem weight_of_one_changes_thirds :
    let result := pairedResult "0.3333333333333333" "0.3333333333333333"
    let total (test : Test) : Option String :=
      (standard.scoreTest test.withDerivedTotals result).value.testScalar? "TST"
        "SCORE_TOTAL_WEIGHTED"
    total (pairedTest {}) = some "0.666666666667" ∧
      total (pairedTest (Dictionary.insert {} "WEIGHT" 1.0)) = some "0.666666666666" := by
  decide +kernel

end Environment

end Rubric
