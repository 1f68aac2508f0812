import Rubric.Proofs.Totals.Run

namespace Rubric

namespace DerivedTotal

def overallWeighted : DerivedTotal where
  identifier := weighted
  weight := some weightName

theorem identifier_weightedOf_ne_weighted (c : String) : (weightedOf c).identifier ≠ weighted := by
  rw [identifier_weightedOf, weighted_eq]
  intro h
  exact weighted_ne_weighted_prefix c (identifierOf_injective h).symm

theorem identifier_ne_weighted {d : DerivedTotal} {c : String} (h : d ∈ ofCategory c)
    (hc : c ≠ "WEIGHTED") : d.identifier ≠ weighted := by
  rcases List.mem_pair.1 h with rfl | rfl
  · change (plainOf c).identifier ≠ weighted
    rw [identifier_plainOf, weighted_eq]
    exact identifierOf_injective.ne hc
  · exact identifier_weightedOf_ne_weighted c

end DerivedTotal

namespace Test

variable {test : Test}

theorem exists_last_of_nodup (h : (test.derivedTotals.map DerivedTotal.identifier).Nodup)
    {d : DerivedTotal} (hd : d ∈ test.derivedTotals) :
    ∃ before after, test.derivedTotals = before ++ d :: after ∧
      ∀ e ∈ after, e.identifier ≠ d.identifier := by
  obtain ⟨before, after, hsplit⟩ := List.append_of_mem hd
  refine ⟨before, after, hsplit, fun e he hed => ?_⟩
  rw [hsplit, List.map_append, List.map_cons] at h
  have hnot := (List.nodup_cons.1 (List.nodup_append.1 h).2.1).1
  exact hnot (hed ▸ List.mem_map_of_mem he)

/-- The total that is written last under the identifier of the weighted total of all items. -/
def lastWeighted (test : Test) : DerivedTotal :=
  if "WEIGHTED" ∈ test.categories then .plainOf "WEIGHTED" else .overallWeighted

theorem identifier_lastWeighted : test.lastWeighted.identifier = DerivedTotal.weighted := by
  unfold lastWeighted
  split
  · rw [DerivedTotal.identifier_plainOf, DerivedTotal.weighted_eq]
  · rfl

theorem exists_last_weighted (test : Test) :
    ∃ before after, test.derivedTotals = before ++ test.lastWeighted :: after ∧
      ∀ e ∈ after, e.identifier ≠ test.lastWeighted.identifier := by
  rw [identifier_lastWeighted]
  by_cases hw : "WEIGHTED" ∈ test.categories
  · -- The plain total of the category `WEIGHTED` comes later than the weighted total of all items.
    obtain ⟨front, back, hsplit⟩ := List.append_of_mem hw
    refine ⟨DerivedTotal.overall ++ front.flatMap DerivedTotal.ofCategory,
      .weightedOf "WEIGHTED" :: back.flatMap DerivedTotal.ofCategory, ?_, ?_⟩
    · rw [derivedTotals, hsplit, lastWeighted, if_pos hw]
      simp [DerivedTotal.ofCategory_eq]
    · intro e he
      rcases List.mem_cons.1 he with rfl | he
      · exact DerivedTotal.identifier_weightedOf_ne_weighted _
      · obtain ⟨c, hc, hec⟩ := List.mem_flatMap.1 he
        have hnodup := test.nodup_categories
        rw [hsplit] at hnodup
        have hnot := (List.nodup_cons.1 (List.nodup_append.1 hnodup).2.1).1
        exact DerivedTotal.identifier_ne_weighted hec fun h => hnot (h ▸ hc)
  · refine ⟨[{ identifier := DerivedTotal.plain }],
      test.categories.flatMap DerivedTotal.ofCategory, ?_, ?_⟩
    · rw [lastWeighted, if_neg hw]
      rfl
    · intro e he
      obtain ⟨c, hc, hec⟩ := List.mem_flatMap.1 he
      exact DerivedTotal.identifier_ne_weighted hec fun h => hw (h ▸ hc)

end Test

namespace Environment

variable {test : Test}

/-- The totals of a test have different identifiers exactly when no category is spelled like the
weighted total of all items or of another category. Then each keeps what was added up for it; the
category `WEIGHTED` leaves its own plain sum where the weighted sum of all items belongs. -/
theorem derivedTotals_overwritten_iff (env : Environment) (test : Test)
    (result : AssessmentResult) :
    let distinct := (test.derivedTotals.map DerivedTotal.identifier).Nodup
    let start := startingResult test.identifier result.testResults
    (distinct ↔ "WEIGHTED" ∉ test.categories ∧
      ∀ c ∈ test.categories, "WEIGHTED_" ++ c ∉ test.categories) ∧
    ((∀ d ∈ test.derivedTotals, d.identifier ∉ test.authoredTargets) →
      ∃ r, (env.scoreTest test.withDerivedTotals result).value.testResult? test.identifier =
          some r ∧
        (distinct → ∀ d ∈ test.derivedTotals, r.outcome? d.identifier =
          some ((test.totalVariable start d.identifier).assign
            (.number (d.sum test result.itemResults)))) ∧
        r.outcome? DerivedTotal.weighted =
          some ((test.totalVariable start DerivedTotal.weighted).assign
            (.number (if "WEIGHTED" ∈ test.categories then
                (DerivedTotal.plainOf "WEIGHTED").sum test result.itemResults
              else DerivedTotal.overallWeighted.sum test result.itemResults)))) := by
  intro distinct start
  refine ⟨test.nodup_identifiers_derivedTotals, fun hauthored => ?_⟩
  have hmissing := Test.missingTotals_eq_derivedTotals hauthored
  refine ⟨_, env.testResult?_scoreTest test.withDerivedTotals result, ?_, ?_⟩
  · intro hdistinct d hd
    obtain ⟨before, after, hsplit, hlast⟩ := Test.exists_last_of_nodup hdistinct hd
    exact env.outcome?_scoreTestResult_withDerivedTotals (hmissing.trans hsplit) hlast _ _ _
  · obtain ⟨before, after, hsplit, hlast⟩ := test.exists_last_weighted
    have hlastSum : test.lastWeighted.sum test result.itemResults =
        if "WEIGHTED" ∈ test.categories then
          (DerivedTotal.plainOf "WEIGHTED").sum test result.itemResults
        else DerivedTotal.overallWeighted.sum test result.itemResults :=
      apply_ite (fun d : DerivedTotal => d.sum test result.itemResults) _ _ _
    rw [← hlastSum, ← Test.identifier_lastWeighted]
    exact env.outcome?_scoreTestResult_withDerivedTotals (hmissing.trans hsplit) hlast _ _ _

theorem derivedTotals_of_sample_kept :
    ∃ r, (standard.scoreTest (sampleTest "A").withDerivedTotals sampleResult).value.testResult?
        "TST" = some r ∧
      (r.outcome? "SCORE_TOTAL_A").bind Variable.scalar = some "2" ∧
      (r.outcome? "SCORE_TOTAL_WEIGHTED").bind Variable.scalar = some "6" := by
  obtain ⟨hdistinct, hrun⟩ := derivedTotals_overwritten_iff standard (sampleTest "A") sampleResult
  obtain ⟨r, hr, hkept, hweighted⟩ := hrun (by decide +kernel)
  have hplain := hkept (hdistinct.2 (by decide +kernel)) (DerivedTotal.plainOf "A")
    (by decide +kernel)
  refine ⟨r, hr, ?_, ?_⟩
  · rw [DerivedTotal.identifier_plainOf] at hplain
    change (r.outcome? (DerivedTotal.identifierOf "A")).bind Variable.scalar = some "2"
    rw [hplain]
    decide +kernel
  · change (r.outcome? DerivedTotal.weighted).bind Variable.scalar = some "6"
    rw [hweighted]
    decide +kernel

/-- An item in the category `WEIGHTED` turns the weighted total of all items into its plain one. -/
theorem weighted_total_overwritten :
    let test := sampleTest "WEIGHTED"
    ¬(test.derivedTotals.map DerivedTotal.identifier).Nodup ∧
      Decimal.canonical (DerivedTotal.overallWeighted.sum test sampleResult.itemResults) = "6" ∧
        (standard.scoreTest test.withDerivedTotals sampleResult).value.testScalar? "TST"
          "SCORE_TOTAL_WEIGHTED" = some "2" := by
  decide +kernel

end Environment

end Rubric
