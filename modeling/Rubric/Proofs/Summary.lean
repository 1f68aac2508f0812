import Rubric.Proofs.Sorting
import Rubric.Report

namespace Rubric

namespace SummaryRow

variable {a b c : String × String}

/-- One outcome stands before another: by identifier, and by content if the identifiers agree. -/
def Before (a b : String × String) : Prop :=
  a.1 < b.1 ∨ a.1 = b.1 ∧ a.2 ≤ b.2

theorem precedes_iff : precedes a b = true ↔ Before a b := by
  simp [precedes, Before]

theorem Before.trans (hab : Before a b) (hbc : Before b c) : Before a c := by
  obtain hab | ⟨hab, hab'⟩ := hab
  · obtain hbc | ⟨hbc, -⟩ := hbc
    · exact .inl (String.lt_trans hab hbc)
    · exact .inl (hbc ▸ hab)
  · obtain hbc | ⟨hbc, hbc'⟩ := hbc
    · exact .inl (hab ▸ hbc)
    · exact .inr ⟨hab.trans hbc, String.le_trans hab' hbc'⟩

theorem before_total (a b : String × String) : Before a b ∨ Before b a := by
  by_cases hab : a.1 < b.1
  · exact .inl (.inl hab)
  · by_cases hba : b.1 < a.1
    · exact .inr (.inl hba)
    · have heq : a.1 = b.1 := String.le_antisymm (String.not_lt.1 hba) (String.not_lt.1 hab)
      obtain hle | hle := String.le_total a.2 b.2
      · exact .inl (.inr ⟨heq, hle⟩)
      · exact .inr (.inr ⟨heq.symm, hle⟩)

/-- A row shows a result: its identifier, and of all outcome variables of all its test results the
identifiers and contents, sorted and with their repetitions. -/
structure Shows (row : SummaryRow) (r : AssessmentResult) : Prop where
  result : row.result = r.identifier
  outcomes : row.outcomes.Perm ((r.testResults.flatMap TestResult.outcomes).map fun v =>
    (v.identifier, v.scalar.getD (String.intercalate " " v.members)))
  sorted : row.outcomes.Pairwise Before

theorem shows_ofResult (r : AssessmentResult) : (ofResult r).Shows r where
  result := rfl
  outcomes := List.mergeSort_perm _ _
  sorted := by
    have hsorted : (ofResult r).outcomes.Pairwise fun a b => precedes a b = true := by
      apply List.pairwise_mergeSort
      · intro a b c hab hbc
        exact precedes_iff.2 ((precedes_iff.1 hab).trans (precedes_iff.1 hbc))
      · intro a b
        rw [Bool.or_eq_true, precedes_iff, precedes_iff]
        exact before_total a b
    exact hsorted.imp precedes_iff.1

end SummaryRow

namespace Report

/-- The results of a report in the order of their identifiers. -/
def sortedResults (report : Report) : List AssessmentResult :=
  report.results.mergeSort fun a b => decide (a.identifier ≤ b.identifier)

theorem summary_eq (report : Report) :
    report.summary = report.sortedResults.map SummaryRow.ofResult := by
  rw [summary, sortedResults, List.map_mergeSort]
  intro a _ b _
  rfl

theorem summary_eq_of_perm {report other : Report} (hperm : other.results.Perm report.results)
    (hdistinct : (report.results.map AssessmentResult.identifier).Nodup) :
    other.summary = report.summary := by
  have hsorted : other.sortedResults = report.sortedResults := by
    apply Eq.symm
    apply mergeSort_key_eq_of_perm hperm.symm
    intro a ha b hb heq
    exact List.inj_on_of_nodup_map hdistinct ha hb heq
  rw [summary_eq, summary_eq, hsorted]

/-- A summary shows the results one by one in ascending order of their identifiers, and in the
order of the batch where these agree. A batch of results with different identifiers has the same
summary in any order. -/
theorem summary_shows_sorted (report : Report) :
    (∃ ordered, ordered.Perm report.results ∧
      ordered.Pairwise (fun a b => a.identifier ≤ b.identifier) ∧
      (∀ identifier, ordered.filter (·.identifier = identifier) =
        report.results.filter (·.identifier = identifier)) ∧
      List.Forall₂ SummaryRow.Shows report.summary ordered) ∧
    ∀ other : Report, other.results.Perm report.results →
      (report.results.map AssessmentResult.identifier).Nodup → other.summary = report.summary := by
  constructor
  · refine ⟨report.sortedResults, List.mergeSort_perm _ _, ?_, ?_, ?_⟩
    · exact pairwise_mergeSort_key AssessmentResult.identifier report.results
    · intro identifier
      exact filter_mergeSort_key report.results identifier
    · rw [summary_eq, List.forall₂_map_left_iff, List.forall₂_same]
      intro r _
      exact SummaryRow.shows_ofResult r
  · intro other hperm hdistinct
    exact summary_eq_of_perm hperm hdistinct

theorem swapped_batch_summarised_alike :
    let hints : Variable :=
      { identifier := "HINTS", cardinality := .multiple, members := ["A", "B"] }
    let score : Variable := { identifier := "SCORE", baseType := .float, scalar := some "2" }
    let first : AssessmentResult :=
      { identifier := "R1", testResults := [{ identifier := "TST", outcomes := [score, hints] }] }
    let second : AssessmentResult := { identifier := "R2" }
    let report (results : List AssessmentResult) : Report :=
      { id := ⟨0⟩, createdAt := ⟨0, 0⟩, stage := .all, duration := 0, results }
    (report [second, first]).results.Perm (report [first, second]).results ∧
      ((report [first, second]).results.map AssessmentResult.identifier).Nodup ∧
      (report [second, first]).summary = (report [first, second]).summary := by
  intro hints score first second report
  have hperm : (report [second, first]).results.Perm (report [first, second]).results :=
    .swap first second []
  have hdistinct : ((report [first, second]).results.map AssessmentResult.identifier).Nodup := by
    decide
  exact ⟨hperm, hdistinct, (summary_shows_sorted _).2 _ hperm hdistinct⟩

end Report

end Rubric
