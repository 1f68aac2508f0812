import Rubric.Proofs.Totals.Run

namespace Rubric

/-- Whether an item has a category, apart from blanks around it. -/
def ItemRef.carries (ref : ItemRef) (category : String) : Bool :=
  ref.categories.elements.any fun raw => Text.trim raw == category

def DerivedTotal.selected (d : DerivedTotal) (test : Test) : List ItemRef :=
  test.itemRefs.filter (CategoryFilter.ofNode d.aggregate).admits

namespace DerivedTotal

variable {test : Test}

theorem category_of_mem_ofCategory {d : DerivedTotal} {c : String} (h : d ∈ ofCategory c) :
    d.category = some c := by
  rcases List.mem_pair.1 h with rfl | rfl <;> rfl

theorem Regular.mem_selected {d : DerivedTotal} (h : d.Regular) {ref : ItemRef} :
    ref ∈ d.selected test ↔ ref ∈ test.itemRefs ∧ d.covers ref = true := by
  rw [selected, List.mem_filter, h.admits_aggregate]

theorem covers_iff {d : DerivedTotal} {c : String} (h : d.category = some (Text.trim c))
    (hc : Text.allBlank c = false) {ref : ItemRef} :
    d.covers ref = true ↔ Text.firstWord (Text.trim c) ∈ ref.categories.elements := by
  simp [covers, h, Text.head?_words_trim hc]

theorem Regular.aggregate?_eq {d : DerivedTotal} (h : d.Regular) {s : Scope} {table : OutcomeTable}
    (hs : s.subject = .test test table) :
    s.aggregate? d.aggregate =
      (fun total => some ((Value.number total).named score)) <$>
        s.sumOutcomes test table score d.weight 0.0 (d.selected test) := by
  simp only [Scope.aggregate?, hs, filledAttribute?_aggregate_variableIdentifier,
    h.filledAttribute?_aggregate]
  rfl

end DerivedTotal

namespace Test

variable {test : Test}

/-- The rules for the totals of a category add up, out of all items, those that have the first word
of the category, which are the items of the category exactly when these agree item by item. -/
theorem categoryTotals_cover_iff (h : test.processing = none) {ref : ItemRef}
    (href : ref ∈ test.itemRefs) {raw : String} (hraw : raw ∈ ref.categories.elements)
    (hfilled : Text.allBlank raw = false) :
    let c := Text.trim raw
    ∀ d ∈ DerivedTotal.ofCategory c,
      d.statement ∈ test.withDerivedTotals.processingRoot.children ∧
      (∀ (s : Scope) (table : OutcomeTable), s.subject = .test test.withDerivedTotals table →
        s.aggregate? d.aggregate =
          (fun total => some ((Value.number total).named "SCORE")) <$>
            s.sumOutcomes test.withDerivedTotals table "SCORE" d.weight 0.0 (d.selected test)) ∧
      (d.selected test = test.itemRefs.filter (·.carries c) ↔
        ∀ other ∈ test.itemRefs,
          (Text.firstWord c ∈ other.categories.elements ↔ other.carries c = true)) := by
  intro c d hd
  have hmem : d ∈ test.derivedTotals :=
    mem_derivedTotals.2 (.inr ⟨c, mem_categories.2 ⟨ref, href, raw, hraw, hfilled, rfl⟩, hd⟩)
  have hregular := regular_of_mem_derivedTotals hmem
  have hcovers (other : ItemRef) :
      d.covers other = true ↔ Text.firstWord c ∈ other.categories.elements :=
    DerivedTotal.covers_iff (DerivedTotal.category_of_mem_ofCategory hd) hfilled
  refine ⟨?_, fun s table hs => hregular.aggregate?_eq hs, ?_, fun hagree => ?_⟩
  · have hmissing : test.missingTotals = test.derivedTotals := by
      apply missingTotals_eq_derivedTotals
      simp [authoredTargets_of_processing_eq_none h]
    change d.statement ∈ test.processingRoot.children ++ test.missingTotals.map _
    rw [hmissing]
    exact List.mem_append_right _ (List.mem_map_of_mem hmem)
  · intro hselected other hother
    have hiff : other ∈ d.selected test ↔ other ∈ test.itemRefs.filter (·.carries c) := by
      rw [hselected]
    rw [hregular.mem_selected, List.mem_filter, and_congr_right_iff] at hiff
    rw [← hcovers, hiff hother]
  · apply List.filter_congr
    intro other hother
    rw [hregular.admits_aggregate, Bool.eq_iff_iff, hcovers, hagree other hother]

theorem categoryTotals_of_sample_cover :
    (DerivedTotal.weightedOf "A").selected (sampleTest "A") = (sampleTest "A").itemRefs := by
  have hmem : DerivedTotal.weightedOf "A" ∈ DerivedTotal.ofCategory (Text.trim "A") := by
    decide +kernel
  obtain ⟨-, -, hiff⟩ := @categoryTotals_cover_iff (sampleTest "A") rfl _ (.head _) "A"
    (by decide +kernel) (by decide +kernel) _ hmem
  rw [hiff.2 (by decide +kernel)]
  decide +kernel

/-- A category of two words covers no item, not even one that has it. -/
theorem categoryTotals_of_two_words :
    let c := "Reading Comprehension"
    let test := sampleTest c
    test.itemRefs.filter (·.carries (Text.trim c)) = test.itemRefs ∧
      (∀ d ∈ DerivedTotal.ofCategory (Text.trim c), d.selected test = []) ∧
        (Environment.standard.scoreTest test.withDerivedTotals sampleResult).value.testScalar?
          "TST" "SCORE_TOTAL_Reading Comprehension" = some "0" := by
  decide +kernel

end Test

end Rubric
