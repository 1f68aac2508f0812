import Rubric.Proofs.Execution
import Rubric.Proofs.Subjects

namespace Rubric

theorem Node.within_reads {root : Option Node} {A : Set String}
    (h : ∀ node ∈ root, ∀ x ∈ node.reads, x ∈ A) :
    ∀ n ∈ statementsUnder root, n.Within A Set.univ :=
  Within.statementsUnder fun node hnode => ⟨h node hnode, fun _ _ => trivial⟩

namespace Environment

/-- Item results with the same outcome variables are scored alike if they agree on the first
response of each name that the rules read: the outcome variables and the record are the same. A
variable without a name reads no response. -/
theorem score_depends_on_responses_read (env : Environment) {item : Item} {r r' : ItemResult}
    (houtcomes : r'.outcomes = r.outcomes)
    (h : ∀ root ∈ item.processing, ∀ x ∈ root.reads, x ≠ "" → r'.response? x = r.response? x)
    (result : String) :
    (env.scoreItem item result r').value.outcomes = (env.scoreItem item result r).value.outcomes ∧
      (env.scoreItem item result r').log = (env.scoreItem item result r).log := by
  let s := env.itemScope item r.responses result
  let rules := Node.statementsUnder item.processing
  let run := s.executeAll rules (r.outcomes.ensureAll item.outcomes)
  let A : Set String := {x | x ≠ "" → r'.response? x = r.response? x}
  have hanswers : s.SameAnswers (env.itemScope item r'.responses result) A Set.univ :=
    Scope.sameAnswers_of_item ⟨rfl, rfl, rfl⟩ rfl rfl rfl rfl fun x hx => (hx.1 hx.2).symm
  have hagain : (env.itemScope item r'.responses result).executeAll rules
      (r'.outcomes.ensureAll item.outcomes) = run := by
    rw [houtcomes]
    exact hanswers.executeAll_eq (Node.within_reads h) _
  have hscored : env.scoreItem item result r = ⟨{ r with outcomes := run.value }, run.log⟩ :=
    env.scoreItem_of_executeAll rfl
  have hscored' : env.scoreItem item result r' = ⟨{ r' with outcomes := run.value }, run.log⟩ :=
    env.scoreItem_of_executeAll hagain
  rw [hscored, hscored']
  exact ⟨rfl, rfl⟩

def answeredItem : Item where
  identifier := "ITM-1"
  outcomes := [.number "SCORE", .number "SUM"]
  processing := some {
    name := "responseProcessing"
    children := [
      .assigning "SCORE" (.reading "RESPONSE"),
      .assigning "SUM" { name := "sum", children := [.reading "SCORE", .reading "HINTS"] }] }

theorem score_ignores_other_responses :
    let env : Environment := { registry := {}, config := {} }
    let r : ItemResult :=
      { identifier := "ITM-1", responses := [.single "RESPONSE" .float "2"] }
    let crowded : ItemResult :=
      { identifier := "ITM-1"
        responses := [
          .single "OTHER" .float "9", .single "RESPONSE" .float "2",
          .single "RESPONSE" .float "7"] }
    let run := env.scoreItem answeredItem "R1" r
    let run' := env.scoreItem answeredItem "R1" crowded
    run.value.outcomes = [.single "SCORE" .float "2", .single "SUM" .float "2"] ∧
      run.log = [.problem "ITM-1 - R1" (.variableUnknown "HINTS")] ∧
      run'.value.outcomes = run.value.outcomes ∧ run'.log = run.log := by
  intro env r crowded run run'
  have hreads : ∀ root ∈ answeredItem.processing, ∀ x ∈ root.reads, x ≠ "" →
      crowded.response? x = r.response? x := by
    intro root hroot
    cases hroot
    decide +kernel
  have hsame : crowded.outcomes = r.outcomes := rfl
  obtain ⟨houtcomes, hlog⟩ := score_depends_on_responses_read env hsame hreads "R1"
  exact ⟨by decide +kernel, by decide +kernel, houtcomes, hlog⟩

end Environment

end Rubric
