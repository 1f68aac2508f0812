import Rubric.Proofs.Frame
import Rubric.Proofs.Subjects

namespace Rubric

/-- Statements of which neither assigns an outcome that the other one assigns or reads. -/
structure Node.Independent (x y : Node) : Prop where
  targets : ∀ i ∈ x.targets, i ∉ y.targets
  reads_right : ∀ i ∈ x.targets, i ∉ y.reads
  reads_left : ∀ i ∈ y.targets, i ∉ x.reads

/-- Lists that differ in the order of the two elements after the first `n`, and in nothing else. -/
def SwappedAt {α : Type} (n : Nat) (l l' : List α) : Prop :=
  ∃ before x y after, before.length = n ∧ l = before ++ x :: y :: after ∧
    l' = before ++ y :: x :: after

namespace Scope

variable {s : Scope} {x y : Node} {store store' : Store}

/-- What each of several statements puts on record when they are executed one after the other. -/
def blocks (s : Scope) : List Node → Store → List Log
  | [], _ => []
  | node :: rest, store =>
    let run := s.execute node store
    run.log :: s.blocks rest run.value.2

theorem length_blocks (nodes : List Node) (store : Store) :
    (s.blocks nodes store).length = nodes.length := by
  induction nodes generalizing store with
  | nil => rfl
  | cons node rest ih => simp only [blocks, List.length_cons, ih]

theorem log_executeAll (nodes : List Node) (store : Store) :
    (s.executeAll nodes store).log = (s.blocks nodes store).flatten := by
  induction nodes generalizing store with
  | nil => rfl
  | cons node rest ih => simp only [executeAll, blocks, Logged.log_bind, List.flatten_cons, ih]

theorem blocks_append (xs ys : List Node) (store : Store) :
    s.blocks (xs ++ ys) store =
      s.blocks xs store ++ s.blocks ys (s.executeAll xs store).value := by
  induction xs generalizing store with
  | nil => rfl
  | cons x xs ih =>
    simp only [List.cons_append, blocks, executeAll, Logged.value_bind, ih]

theorem blocks_eq {s' : Scope} (h : s.SameAnswers s' Set.univ Set.univ) (nodes : List Node)
    (store : Store) : s'.blocks nodes store = s.blocks nodes store := by
  induction nodes generalizing store with
  | nil => rfl
  | cons node rest ih => simp only [blocks, h.execute_eq node.within_univ, ih]

theorem execute_of_eqOn (s : Scope) (x : Node)
    (h : Set.EqOn (Variable.find? store) (Variable.find? store') {i | i ∈ x.reads}) :
    s.InStep {i | i ∈ x.targets} store store' (s.execute x store) (s.execute x store') :=
  (s.sameAnswers_self _ _).execute x h ⟨fun _ hi => hi, fun _ hi => hi⟩

theorem find?_execute_of_not_mem {i : String} (hi : i ∉ x.targets) (store : Store) :
    Variable.find? (s.execute x store).value.2 i = Variable.find? store i := by
  obtain ⟨_, ws, log, hws, hx, -⟩ := s.execute_of_eqOn x (Set.eqOn_refl (Variable.find? store) _)
  rw [hx]
  apply Store.find?_writeAll_of_not_mem
  intro w hw hwi
  obtain ⟨htarget, -⟩ := hws w hw
  exact hi (hwi ▸ htarget)

/-- Independent statements lead to the same store in either order, and each puts on record after the
other one what it puts on record before it. -/
theorem execute_execute (h : x.Independent y) (hprepared : s.Prepared store) :
    let first := s.execute x store
    let second := s.execute y store
    (s.execute x second.value.2).value.2 = (s.execute y first.value.2).value.2 ∧
      (s.execute x second.value.2).log = first.log ∧
      (s.execute y first.value.2).log = second.log := by
  intro first second
  have hx : Set.EqOn (Variable.find? store) (Variable.find? second.value.2) {i | i ∈ x.reads} :=
    fun i hi => (find?_execute_of_not_mem (fun htarget => h.reads_left i htarget hi) store).symm
  have hy : Set.EqOn (Variable.find? store) (Variable.find? first.value.2) {i | i ∈ y.reads} :=
    fun i hi => (find?_execute_of_not_mem (fun htarget => h.reads_right i htarget hi) store).symm
  -- `us` are the writes of `x` and `ws` those of `y`, wherever in the order the two stand.
  obtain ⟨_, us, xlog, hus, hxrun, hxagain⟩ := s.execute_of_eqOn x hx
  obtain ⟨_, ws, ylog, hws, hyrun, hyagain⟩ := s.execute_of_eqOn y hy
  have hfirst : first.value.2 = store.writeAll us := congrArg (fun run => run.value.2) hxrun
  have hsecond : second.value.2 = store.writeAll ws := congrArg (fun run => run.value.2) hyrun
  refine ⟨?_, ?_, ?_⟩
  · rw [hxagain, hyagain, hfirst, hsecond]
    symm
    apply Store.writeAll_comm
    · intro u hu
      exact hprepared _ _ (hus u hu).2
    · intro u hu w hw heq
      exact h.targets u.target (hus u hu).1 (heq ▸ (hws w hw).1)
  · rw [hxagain]
    exact (congrArg Logged.log hxrun).symm
  · rw [hyagain]
    exact (congrArg Logged.log hyrun).symm

theorem executeAll_swap {s' : Scope} (hanswers : s.SameAnswers s' Set.univ Set.univ)
    (h : x.Independent y) (hprepared : s.Prepared store) (before after : List Node) :
    (s'.executeAll (before ++ y :: x :: after) store).value =
        (s.executeAll (before ++ x :: y :: after) store).value ∧
      SwappedAt before.length (s.blocks (before ++ x :: y :: after) store)
        (s'.blocks (before ++ y :: x :: after) store) := by
  let mid := (s.executeAll before store).value
  obtain ⟨hstore, hxlog, hylog⟩ := execute_execute h (hprepared.executeAll before)
  rw [hanswers.executeAll_eq_univ, blocks_eq hanswers]
  refine ⟨?_, s.blocks before store, (s.execute x mid).log, (s.execute y mid).log,
    s.blocks after (s.execute y (s.execute x mid).value.2).value.2, length_blocks before store,
    ?_, ?_⟩
  · simp only [executeAll_append, executeAll, Logged.value_bind, hstore]
  · simp only [blocks_append, blocks, hylog, mid]
  · simp only [blocks_append, blocks, hxlog, hstore, mid]

end Scope

namespace Environment

variable (env : Environment)

def itemBlocks (item : Item) (result : String) (r : ItemResult) : List Log :=
  (env.itemScope item r.responses result).blocks (Node.statementsUnder item.processing)
    (r.outcomes.ensureAll item.outcomes)

def testBlocks (test : Test) (result : AssessmentResult) : List Log :=
  (env.testScope test result.itemResults result.identifier).blocks
    (Node.statementsUnder test.processing)
    ((startingResult test.identifier result.testResults).outcomes.ensureAll test.outcomes)

theorem log_scoreItem (item : Item) (result : String) (r : ItemResult) :
    (env.scoreItem item result r).log = (env.itemBlocks item result r).flatten := by
  simp only [scoreItem, Scope.process_eq_executeAll, Logged.log_bind, Logged.log_pure,
    List.append_nil, Scope.log_executeAll]
  rfl

theorem log_scoreTest_eq_flatten (test : Test) (result : AssessmentResult) :
    (env.scoreTest test result).log = (env.testBlocks test result).flatten := by
  simp only [log_scoreTest, scoreTestResult, Scope.process_eq_executeAll, Logged.log_bind,
    Logged.log_pure, List.append_nil, Scope.log_executeAll]
  rfl

section swap

variable {root x y : Node} {before after : List Node}

theorem scoreItem_swap (hroot : root.children = before ++ x :: y :: after)
    (hxy : x.Independent y) {item : Item} (hitem : item.processing = some root) (result : String)
    (r : ItemResult) :
    let swapped : Node := { root with children := before ++ y :: x :: after }
    let item' : Item := { item with processing := some swapped }
    (env.scoreItem item' result r).value = (env.scoreItem item result r).value ∧
      SwappedAt before.length (env.itemBlocks item result r) (env.itemBlocks item' result r) := by
  intro swapped item'
  let s := env.itemScope item r.responses result
  have hanswers : s.SameAnswers (env.itemScope item' r.responses result) Set.univ Set.univ :=
    Scope.sameAnswers_of_item ⟨rfl, rfl, rfl⟩ rfl rfl rfl rfl (Set.eqOn_refl _ _)
  have hprepared : s.Prepared (r.outcomes.ensureAll item.outcomes) :=
    Scope.prepared_ensureAll (fun _ _ => Scope.mem_of_outcome?_item rfl) r.outcomes
  have hrules : Node.statementsUnder item.processing = before ++ x :: y :: after := by
    rw [hitem]
    exact hroot
  obtain ⟨hvalue, hblocks⟩ := Scope.executeAll_swap hanswers hxy hprepared before after
  rw [← hrules] at hvalue hblocks
  refine ⟨?_, hblocks⟩
  simp only [scoreItem, Scope.process_eq_executeAll, Logged.value_bind, Logged.value_pure]
  rw [← hvalue]
  rfl

theorem scoreTest_swap (hroot : root.children = before ++ x :: y :: after)
    (hxy : x.Independent y) {test : Test} (htest : test.processing = some root)
    (result : AssessmentResult) :
    let swapped : Node := { root with children := before ++ y :: x :: after }
    let test' : Test := { test with processing := some swapped }
    (env.scoreTest test' result).value = (env.scoreTest test result).value ∧
      SwappedAt before.length (env.testBlocks test result) (env.testBlocks test' result) := by
  intro swapped test'
  let s := env.testScope test result.itemResults result.identifier
  let start := startingResult test.identifier result.testResults
  have hanswers : s.SameAnswers (env.testScope test' result.itemResults result.identifier)
      Set.univ Set.univ :=
    Scope.sameAnswers_of_itemRefs ⟨rfl, rfl, rfl⟩ rfl rfl rfl rfl (Set.eqOn_refl _ _)
  have hprepared : s.Prepared (start.outcomes.ensureAll test.outcomes) :=
    Scope.prepared_ensureAll (fun _ _ => Scope.mem_of_outcome?_test rfl) start.outcomes
  have hrules : Node.statementsUnder test.processing = before ++ x :: y :: after := by
    rw [htest]
    exact hroot
  obtain ⟨hvalue, hblocks⟩ := Scope.executeAll_swap hanswers hxy hprepared before after
  rw [← hrules] at hvalue hblocks
  refine ⟨?_, hblocks⟩
  have hplaced : (changeTestResult test.identifier
      (env.scoreTestResult test' result.itemResults result.identifier) result.testResults).value =
      (changeTestResult test.identifier
        (env.scoreTestResult test result.itemResults result.identifier) result.testResults).value := by
    apply value_changeTestResult_congr
    simp only [scoreTestResult, Scope.process_eq_executeAll, Logged.value_bind, Logged.value_pure]
    rw [← hvalue]
    rfl
  simp only [scoreTest, Logged.value_bind, Logged.value_pure]
  rw [← hplaced]

/-- Independent statements that stand side by side under the root can change places. The scored
result is the same, and in the record what the two put there changes places. -/
theorem independent_statements_commute (env : Environment)
    (hroot : root.children = before ++ x :: y :: after) (hxy : x.Independent y) :
    let swapped : Node := { root with children := before ++ y :: x :: after }
    (∀ item : Item, item.processing = some root → ∀ (result : String) (r : ItemResult),
      let item' : Item := { item with processing := some swapped }
      (env.scoreItem item' result r).value = (env.scoreItem item result r).value ∧
      (env.scoreItem item result r).log = (env.itemBlocks item result r).flatten ∧
      (env.scoreItem item' result r).log = (env.itemBlocks item' result r).flatten ∧
      SwappedAt before.length (env.itemBlocks item result r) (env.itemBlocks item' result r)) ∧
    ∀ test : Test, test.processing = some root → ∀ result : AssessmentResult,
      let test' : Test := { test with processing := some swapped }
      (env.scoreTest test' result).value = (env.scoreTest test result).value ∧
      (env.scoreTest test result).log = (env.testBlocks test result).flatten ∧
      (env.scoreTest test' result).log = (env.testBlocks test' result).flatten ∧
      SwappedAt before.length (env.testBlocks test result) (env.testBlocks test' result) := by
  intro swapped
  constructor
  · intro item hitem result r item'
    obtain ⟨hvalue, hblocks⟩ := env.scoreItem_swap hroot hxy hitem result r
    exact ⟨hvalue, env.log_scoreItem item result r, env.log_scoreItem item' result r, hblocks⟩
  · intro test htest result test'
    obtain ⟨hvalue, hblocks⟩ := env.scoreTest_swap hroot hxy htest result
    exact ⟨hvalue, env.log_scoreTest_eq_flatten test result,
      env.log_scoreTest_eq_flatten test' result, hblocks⟩

end swap

/-- Rules that give two outcomes the values of two unknown variables. -/
def guessing (first second : Node) : Node where
  name := "responseProcessing"
  children := [
    .assigning "SCORE" (.constant "float" "1"), first, second,
    .assigning "SCORE" (.reading "BONUS")]

def guessedItem (root : Node) : Item where
  identifier := "X"
  outcomes := [.number "SCORE", .number "BONUS", .number "HINT"]
  processing := some root

def guessedTest (root : Node) : Test where
  identifier := "X"
  outcomes := [.number "SCORE", .number "BONUS", .number "HINT"]
  processing := some root

theorem guesses_commute :
    let env : Environment := { registry := {}, config := {} }
    let x := Node.assigning "BONUS" (.reading "A")
    let y := Node.assigning "HINT" (.reading "B")
    let unknown name : Event := .problem "X - R1" (.variableUnknown name)
    let score root := env.scoreItem (guessedItem root) "R1" { identifier := "X" }
    let scoreTest root := env.scoreTest (guessedTest root) { identifier := "R1" }
    (score (guessing y x)).value = (score (guessing x y)).value ∧
      (score (guessing x y)).log = [unknown "A", unknown "B"] ∧
      (score (guessing y x)).log = [unknown "B", unknown "A"] ∧
      (scoreTest (guessing y x)).value = (scoreTest (guessing x y)).value ∧
      (scoreTest (guessing x y)).log = [unknown "A", unknown "B"] ∧
      (scoreTest (guessing y x)).log = [unknown "B", unknown "A"] := by
  intro env x y unknown score scoreTest
  have hxy : x.Independent y :=
    ⟨by decide +kernel, by decide +kernel, by decide +kernel⟩
  have hroot : (guessing x y).children = [.assigning "SCORE" (.constant "float" "1")] ++
      x :: y :: [.assigning "SCORE" (.reading "BONUS")] := rfl
  obtain ⟨hitems, htests⟩ := independent_statements_commute env hroot hxy
  obtain ⟨hitem, -⟩ := hitems (guessedItem (guessing x y)) rfl "R1" { identifier := "X" }
  obtain ⟨htest, -⟩ := htests (guessedTest (guessing x y)) rfl { identifier := "R1" }
  exact ⟨hitem, by decide +kernel, by decide +kernel, htest, by decide +kernel, by decide +kernel⟩

end Environment

end Rubric
