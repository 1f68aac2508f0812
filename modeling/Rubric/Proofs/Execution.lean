import Rubric.Proofs.Agreement
import Rubric.Scoring

namespace Rubric

namespace Scope

/-- A property of stores that no write to a declared outcome destroys. -/
def Stable (s : Scope) (P : Store → Prop) : Prop :=
  ∀ store d value, s.outcome? d.identifier = some d → P store → P (store.write d value)

variable {s : Scope} {P : Store → Prop}

theorem execute_of_setOutcomeValue {node : Node} (h : node.statement? = some .setOutcomeValue)
    (store : Store) : s.execute node store = s.setOutcome node store := by
  cases node
  simp only [execute, h]

theorem resolve_of_testVariables {node : Node} (h : node.expression? = some .testVariables)
    (store : Store) : s.resolve store node = s.aggregate? node := by
  cases node
  simp only [resolve, h]

theorem variableValue_congr {store store' : Store} {node : Node}
    (h : Variable.find? store node.identifier = Variable.find? store' node.identifier) :
    s.variableValue store' node = s.variableValue store node := by
  unfold variableValue
  cases s.subject with
  | item item responses => simp only [responseValue?, h]
  | test test table => simp only [outcomeValue, h]

theorem sameAnswers_self (s : Scope) (A W : Set String) : s.SameAnswers s A W where
  toSameSettings := ⟨rfl, rfl, rfl⟩
  variableValue := by
    intro store store' hstores node hnode
    exact variableValue_congr (hstores hnode)
  correctValue? _ := rfl
  aggregate? _ := rfl
  outcome? _ _ := rfl

theorem process_eq_executeAll (s : Scope) (root : Option Node) (store : Store) :
    Environment.process s root store = s.executeAll (Node.statementsUnder root) store := by
  cases root with
  | none => rfl
  | some root => rfl

/-- A run amounts to writes of declared outcomes that some statement targets. -/
theorem exists_writes (s : Scope) {W : Set String} {nodes : List Node}
    (h : ∀ n ∈ nodes, n.Within Set.univ W) (store : Store) :
    ∃ ws log, s.Permits W ws ∧ s.executeAll nodes store = ⟨store.writeAll ws, log⟩ := by
  obtain ⟨ws, log, hws, hx, -⟩ :=
    (s.sameAnswers_self Set.univ W).executeAll (Set.eqOn_refl (Variable.find? store) _) h
  exact ⟨ws, log, hws, hx⟩

theorem find?_executeAll_of_not_mem (s : Scope) {W : Set String} {nodes : List Node}
    (h : ∀ n ∈ nodes, n.Within Set.univ W) {x : String} (hx : x ∉ W) (store : Store) :
    Variable.find? (s.executeAll nodes store).value x = Variable.find? store x := by
  obtain ⟨ws, log, hws, hrun⟩ := s.exists_writes h store
  rw [hrun]
  apply Store.find?_writeAll_of_not_mem
  intro w hw hwx
  obtain ⟨hW, -⟩ := hws w hw
  exact hx (hwx ▸ hW)

theorem Stable.writeAll (hP : s.Stable P) {W : Set String} {ws : List Write}
    (hws : s.Permits W ws) {store : Store} (h : P store) : P (store.writeAll ws) := by
  induction ws generalizing store with
  | nil => exact h
  | cons w ws ih =>
    obtain ⟨-, hw⟩ := hws w (.head _)
    exact ih (fun u hu => hws u (.tail _ hu)) (hP store w.declaration w.value hw h)

theorem Stable.executeAll (hP : s.Stable P) (nodes : List Node) {store : Store} (h : P store) :
    P (s.executeAll nodes store).value := by
  obtain ⟨ws, log, hws, hx⟩ := s.exists_writes (fun n _ => n.within_univ) store
  rw [hx]
  exact hP.writeAll hws h

theorem Stable.process (hP : s.Stable P) (root : Option Node) {store : Store} (h : P store) :
    P (Environment.process s root store).value := by
  rw [process_eq_executeAll]
  exact hP.executeAll (Node.statementsUnder root) h

theorem stable_hasShape (s : Scope) (v : Variable) : s.Stable fun store => store.HasShape v :=
  fun _ d value _ h => h.write d value

theorem stable_isSome_find? (s : Scope) (x : String) :
    s.Stable fun store => (Variable.find? store x).isSome = true :=
  fun _ d value _ h => Store.isSome_find?_write d value h

theorem executeAll_append (xs ys : List Node) (store : Store) :
    s.executeAll (xs ++ ys) store = s.executeAll xs store >>= s.executeAll ys := by
  induction xs generalizing store with
  | nil => rfl
  | cons x xs ih => simp only [List.cons_append, executeAll, ih, bind_assoc]

end Scope

namespace Environment

variable (env : Environment) {store : Store} {log : Log}

theorem scoreItem_of_executeAll {item : Item} {result : String} {r : ItemResult}
    (h : (env.itemScope item r.responses result).executeAll (Node.statementsUnder item.processing)
      (r.outcomes.ensureAll item.outcomes) = ⟨store, log⟩) :
    env.scoreItem item result r = ⟨{ r with outcomes := store }, log⟩ := by
  rw [scoreItem, Scope.process_eq_executeAll, h, Logged.mk_bind, Logged.log_pure, List.append_nil]
  rfl

theorem scoreTestResult_of_executeAll {test : Test} {itemResults : List ItemResult}
    {result : String} {r : TestResult}
    (h : (env.testScope test itemResults result).executeAll (Node.statementsUnder test.processing)
      (r.outcomes.ensureAll test.outcomes) = ⟨store, log⟩) :
    env.scoreTestResult test itemResults result r = ⟨{ r with outcomes := store }, log⟩ := by
  rw [scoreTestResult, Scope.process_eq_executeAll, h, Logged.mk_bind, Logged.log_pure,
    List.append_nil]
  rfl

end Environment

end Rubric
