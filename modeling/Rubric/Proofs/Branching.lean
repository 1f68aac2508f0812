import Rubric.Proofs.Names
import Rubric.Scoring

namespace Rubric

namespace Scope

variable {s : Scope} {store : Store}

theorem store_setOutcome_of_not_matched {node : Node}
    (h : (s.setOutcome node store).value.1 = false) : (s.setOutcome node store).value.2 = store := by
  unfold setOutcome at h ⊢
  cases hi : node.filledAttribute? "identifier" with
  | none => rfl
  | some identifier =>
    cases hd : s.outcome? identifier with
    | none => simp only [hd, value_fallback]
    | some d =>
      simp only [hi, hd] at h ⊢
      cases hv : (s.assignedValue? store identifier node.children).value with
      | none => simp only [Logged.value_bind, hv, Logged.value_pure]
      | some v => simp only [Logged.value_bind, hv, Logged.value_pure, reduceCtorEq] at h

theorem store_executeBranch_of_not_matched {tag : String} {nodes : List Node}
    (h : (s.executeBranch tag nodes store).value.1 = false) :
    (s.executeBranch tag nodes store).value.2 = store := by
  cases nodes with
  | nil => simp only [executeBranch, value_fallback]
  | cons condition body =>
    simp only [executeBranch, Logged.value_bind] at h ⊢
    cases hc : (s.holds store condition).value with
    | false => simp only [Bool.false_eq_true, ↓reduceIte, Logged.value_pure]
    | true =>
      simp only [hc, ↓reduceIte, Logged.value_bind, Logged.value_pure, Bool.true_eq_false] at h

mutual

theorem store_execute_of_not_matched :
    ∀ (node : Node), (s.execute node store).value.1 = false →
      (s.execute node store).value.2 = store
  | ⟨name, attributes, children, text⟩ => by
    intro h
    cases hs : Node.statement? ⟨name, attributes, children, text⟩ with
    | none => simp only [execute, hs, value_fallback]
    | some kind =>
      cases kind with
      | condition =>
        simp only [execute, hs] at h ⊢
        exact store_executeFirst_of_not_matched children h
      | branch =>
        simp only [execute, hs] at h ⊢
        exact store_executeBranch_of_not_matched h
      | elseBranch =>
        simp only [execute, hs] at h ⊢
        exact store_executeBranch_of_not_matched h
      | otherwise =>
        simp only [execute, hs, Logged.value_bind, Logged.value_pure, Bool.true_eq_false] at h
      | setOutcomeValue =>
        simp only [execute, hs] at h ⊢
        exact store_setOutcome_of_not_matched h

theorem store_executeFirst_of_not_matched :
    ∀ (nodes : List Node), (s.executeFirst nodes store).value.1 = false →
      (s.executeFirst nodes store).value.2 = store
  | [] => by
    intro _
    simp only [executeFirst, Logged.value_pure]
  | node :: rest => by
    intro h
    simp only [executeFirst, Logged.value_bind] at h ⊢
    cases hm : (s.execute node store).value.1 with
    | true => simp only [hm, ↓reduceIte, Logged.value_pure, Bool.true_eq_false] at h
    | false =>
      have hnode := store_execute_of_not_matched node hm
      simp only [hm, hnode, Bool.false_eq_true, ↓reduceIte] at h ⊢
      exact store_executeFirst_of_not_matched rest h

end

/-- Whether a statement matches when it is executed alone. -/
def taken (s : Scope) (store : Store) (node : Node) : Bool :=
  (s.execute node store).value.1

/-- The statements up to the first that matches, this one included. -/
def tried (s : Scope) (store : Store) (nodes : List Node) : List Node :=
  nodes.takeWhile (fun n => !s.taken store n) ++ (nodes.find? (s.taken store)).toList

theorem executeFirst_eq (s : Scope) (nodes : List Node) (store : Store) :
    s.executeFirst nodes store = {
      value := ((nodes.find? (s.taken store)).isSome,
        (nodes.find? (s.taken store)).elim store fun n => (s.execute n store).value.2)
      log := (s.tried store nodes).flatMap fun n => (s.execute n store).log } := by
  induction nodes with
  | nil =>
    simp only [executeFirst]
    rfl
  | cons node rest ih =>
    cases hm : (s.execute node store).value.1 with
    | true =>
      have htaken : s.taken store node = true := hm
      ext1
      · simp [executeFirst, hm, htaken]
      · simp [executeFirst, hm, htaken, tried]
    | false =>
      have htaken : s.taken store node = false := hm
      have hnode := store_execute_of_not_matched node hm
      ext1
      · simp [executeFirst, hm, htaken, hnode, ih]
      · simp [executeFirst, hm, htaken, hnode, ih, tried]

theorem execute_of_condition {node : Node} (h : node.statement? = some .condition)
    (store : Store) : s.execute node store = s.executeFirst node.children store := by
  cases node
  simp only [execute, h]

/-- A statement that does not match changes nothing. Of the children of a condition those up to the
first that matches are executed, and that one leaves what it leaves when it is executed alone. -/
theorem condition_takes_first_match (s : Scope) (store : Store) :
    (∀ node, (s.execute node store).value.1 = false → (s.execute node store).value.2 = store) ∧
    ∀ node : Node, node.statement? = some .condition →
      let run := s.execute node store
      let first := node.children.find? fun c => (s.execute c store).value.1
      (run.value.1 = true ↔ ∃ c ∈ node.children, (s.execute c store).value.1 = true) ∧
      run.value.2 = first.elim store (fun c => (s.execute c store).value.2) ∧
      run.log = (s.tried store node.children).flatMap fun c => (s.execute c store).log := by
  refine ⟨fun node h => store_execute_of_not_matched node h, ?_⟩
  intro node hcondition run first
  have hrun : run = s.executeFirst node.children store := execute_of_condition hcondition store
  rw [executeFirst_eq] at hrun
  have hmatched : run.value.1 = (node.children.find? (s.taken store)).isSome := by rw [hrun]
  refine ⟨?_, by rw [hrun]; rfl, by rw [hrun]⟩
  rw [hmatched, List.find?_isSome]
  rfl

def sampleBranches : Node where
  name := "responseCondition"
  children := [
    { name := "responseIf"
      children := [.constant "boolean" "false", .assigning "SCORE" (.constant "float" "1")] },
    .assigning "OTHER" (.constant "float" "1"),
    { name := "responseCondition", children := [{ name := "lookup" }] },
    { name := "responseElse", children := [.assigning "SCORE" (.constant "float" "2")] },
    { name := "responseElse", children := [.assigning "SCORE" (.constant "float" "3")] }]

def sampleItemScope : Scope where
  subject := .item { identifier := "ITM-1", outcomes := [.number "SCORE"] } []
  registry := {}
  config := {}
  label := "ITM-1 - R1"

theorem condition_takes_first_else :
    let run := sampleItemScope.execute sampleBranches [.single "SCORE" .float "0"]
    run.value = (true, [.single "SCORE" .float "2"]) ∧
      (sampleItemScope.execute { name := "lookup" } run.value.2).value.2 = run.value.2 := by
  intro run
  obtain ⟨-, hcondition⟩ :=
    condition_takes_first_match sampleItemScope [.single "SCORE" .float "0"]
  obtain ⟨hmatched, hstore, -⟩ := hcondition sampleBranches (by decide +kernel)
  have htrue : run.value.1 = true := hmatched.2 (by decide +kernel)
  have hleft : run.value.2 = [.single "SCORE" .float "2"] := by
    change (sampleItemScope.execute sampleBranches _).value.2 = _
    rw [hstore]
    decide +kernel
  obtain ⟨hunmatched, -⟩ := condition_takes_first_match sampleItemScope run.value.2
  exact ⟨Prod.ext htrue hleft, hunmatched _ (by decide +kernel)⟩

end Scope

end Rubric
