import Rubric.Proofs.Aggregate
import Rubric.Proofs.Execution
import Rubric.Proofs.Matching
import Rubric.Proofs.MissingValues

namespace Rubric

theorem Value.number_of_not_finite {x : Float} (h : x.isFinite = false) :
    Value.number x = .single .float "0" := by
  rw [number, Decimal.canonical_of_not_finite h]

theorem Value.asNumber_named {v : Value} {x : Float} (h : v.asNumber.toOption = some x)
    (identifier : String) : (v.named identifier).asNumber = .ok x := by
  rw [← v.toOption_asNumber_named identifier] at h
  cases hread : (v.named identifier).asNumber with
  | ok y =>
    rw [hread] at h
    exact congrArg _ (Option.some.inj h)
  | error cause =>
    rw [hread] at h
    cases h

/-- The number that a weighted item outcome multiplies out to. -/
def Test.product? (test : Test) (table : OutcomeTable) (item outcome weight : String) :
    Option Float := do
  let factor ← test.factor? item weight
  let v ← table.find? (outcomeKey item outcome)
  let x ← v.value.asNumber.toOption
  return x * factor

namespace Scope

/-- An assignment of a calculation to a declared outcome. -/
structure AssignsCalculation (s : Scope) (node operand : Node) (kind : Calculation)
    (declaration : OutcomeDeclaration) : Prop where
  statement : node.statement? = some .setOutcomeValue
  target : (node.filledAttribute? "identifier").bind s.outcome? = some declaration
  first : node.children.head? = some operand
  calculates : operand.calculation? = some kind

variable {s : Scope} {store : Store} {node operand : Node} {kind : Calculation}
  {declaration : OutcomeDeclaration} {tag : String}

section calculation

theorem reports_numbersOf_iff {texts : List String} :
    (s.numbersOf tag texts).log.Reports [.warning, .error] ↔
      ∃ text ∈ texts, (readNumber text).toOption = none := by
  induction texts with
  | nil =>
    constructor
    · intro h
      exact absurd h Log.not_reports_nil
    · rintro ⟨text, htext, -⟩
      cases htext
  | cons text rest ih =>
    rw [List.exists_mem_cons_iff]
    cases hread : readNumber text with
    | ok x =>
      simp only [numbersOf, hread, pure_bind, Logged.log_bind, Logged.log_pure, List.append_nil, ih]
      constructor
      · exact .inr
      · rintro (h | h)
        · cases h
        · exact h
    | error cause =>
      have hproblem : Log.Reports [.warning, .error]
          [.problem s.label (.operandCountedAsZero tag cause)] :=
        Log.reports_problem_iff.2 (.head _)
      simp only [numbersOf, hread, Logged.log_bind, log_fallback, Log.reports_append]
      exact iff_of_true (.inl hproblem) (.inl rfl)

/-- A calculation that puts something on record has given up and goes on with zero. -/
theorem calculateOn_quiet_or_zero (xs : List Float) :
    (s.calculateOn tag kind xs).log = [] ∨ (s.calculateOn tag kind xs).value = 0.0 := by
  unfold calculateOn
  cases kind with
  | sum => exact .inl rfl
  | product =>
    dsimp only
    split
    · exact .inr rfl
    · exact .inl rfl
  | subtract =>
    dsimp only
    split
    · exact .inl rfl
    · exact .inr rfl
  | divide =>
    dsimp only
    split
    · split
      · exact .inr rfl
      · exact .inl rfl
    · exact .inr rfl

theorem log_calculateOn_of_not_finite {xs : List Float}
    (h : (s.calculateOn tag kind xs).value.isFinite = false) :
    (s.calculateOn tag kind xs).log = [] := by
  rcases s.calculateOn_quiet_or_zero xs with hquiet | hzero
  · exact hquiet
  · rw [hzero] at h
    cases h

theorem log_calculate_of_not_finite (h : (s.calculate store kind operand).value.isFinite = false) :
    let operands := s.resolveAll store operand.children
    (s.calculate store kind operand).log =
      operands.log ++ (s.numbersOf operand.name (operands.value.flatMap Value.texts)).log := by
  intro operands
  have hquiet : (s.calculateOn operand.name kind
      (s.numbersOf operand.name (operands.value.flatMap Value.texts)).value).log = [] :=
    log_calculateOn_of_not_finite h
  simp only [calculate, calculateFrom, Logged.log_bind]
  rw [hquiet, List.append_nil]

theorem AssignsCalculation.execute (h : s.AssignsCalculation node operand kind declaration) :
    s.execute node store = do
      let x ← s.calculate store kind operand
      return (true, store.write declaration (.number x)) := by
  obtain ⟨identifier, hidentifier, hdeclared⟩ := Option.bind_eq_some_iff.1 h.target
  have hassigned : s.assignedValue? store identifier node.children =
      (fun x => some (.number x)) <$> s.calculate store kind operand := by
    simp only [assignedValue?, h.first, Option.bind_some, h.calculates, Option.map_some]
    exact (map_eq_pure_bind _ _).symm
  rw [execute_of_setOutcomeValue h.statement, setOutcome, hidentifier]
  simp only [hdeclared, hassigned]
  ext1 <;> simp

end calculation

theorem itemOutcome?_of_not_finite {test : Test} {table : OutcomeTable}
    {item outcome weight : String} {y : Float}
    (h : test.product? table item outcome weight = some y) (hy : y.isFinite = false)
    (missing : Severity) :
    s.itemOutcome? test table item outcome (some weight) missing =
      pure (some ((Value.single .float "0").named (outcomeKey item outcome))) := by
  obtain ⟨factor, hfactor, h⟩ := Option.bind_eq_some_iff.1 h
  obtain ⟨v, hv, h⟩ := Option.bind_eq_some_iff.1 h
  obtain ⟨x, hx, h⟩ := Option.bind_eq_some_iff.1 h
  obtain rfl := Option.some.inj h
  obtain ⟨ref, href, hweight⟩ := Option.bind_eq_some_iff.1 hfactor
  simp only [itemOutcome?, href, hv, weighted, hweight, Value.asNumber_named hx,
    Value.number_of_not_finite hy, map_pure]

/-- Numbers out of range. An assignment of one writes `0`, and it records what reading its operands
records: so nothing, unless an operand was in trouble by itself or had a text that is no number. A
weighted item outcome out of range is `0` with nothing on record. -/
theorem overflow_reported_iff (s : Scope) (store : Store) :
    (∀ node operand kind declaration, s.AssignsCalculation node operand kind declaration →
      (s.calculate store kind operand).value.isFinite = false →
      let run := s.execute node store
      let operands := s.resolveAll store operand.children
      run.value = (true, store.write declaration (.single .float "0")) ∧
      run.log =
        operands.log ++ (s.numbersOf operand.name (operands.value.flatMap Value.texts)).log ∧
      (run.log.Reports [.warning, .error] ↔
        operands.log.Reports [.warning, .error] ∨
          ∃ v ∈ operands.value, ∃ text ∈ v.texts, (readNumber text).toOption = none)) ∧
    ∀ test table item outcome weight y missing,
      Test.product? test table item outcome weight = some y → y.isFinite = false →
      s.itemOutcome? test table item outcome (some weight) missing =
        pure (some ((Value.single .float "0").named (outcomeKey item outcome))) := by
  constructor
  · intro node operand kind declaration h hoverflow run operands
    have hrun : run = _ := h.execute
    have hlog : run.log = operands.log ++
        (s.numbersOf operand.name (operands.value.flatMap Value.texts)).log := by
      rw [hrun, Logged.log_bind, Logged.log_pure, List.append_nil]
      exact log_calculate_of_not_finite hoverflow
    refine ⟨?_, hlog, ?_⟩
    · rw [hrun, Logged.value_bind, Logged.value_pure, Value.number_of_not_finite hoverflow]
    · rw [hlog, Log.reports_append, reports_numbersOf_iff]
      apply or_congr_right
      simp only [List.mem_flatMap]
      constructor
      · rintro ⟨text, ⟨v, hv, htext⟩, hread⟩
        exact ⟨v, hv, text, htext, hread⟩
      · rintro ⟨v, hv, text, htext, hread⟩
        exact ⟨text, ⟨v, hv, htext⟩, hread⟩
  · intro test table item outcome weight y missing h hy
    exact itemOutcome?_of_not_finite h hy missing

def scored : Scope :=
  { bare with subject := .item { identifier := "ITM-1", outcomes := [.number "SCORE"] } [] }

def product (factors : List String) : Node where
  name := "product"
  children := factors.map (Node.constant "float")

/-- A test of one item with a large weight. -/
def heavyTest : Test where
  identifier := "TST"
  itemRefs := [{ identifier := "ITM-1", weights := .ofList [("WEIGHT", 1e200)] }]

def heavyScores : OutcomeTable :=
  [("ITM-1.SCORE", .single "SCORE" .float "1e200")]

/-- What is reported is the third factor, not that the others leave the range. Of a weighted score
out of range nothing is reported. -/
theorem unreadable_factor_reported :
    let run := scored.execute (.assigning "SCORE" (product ["1e200", "1e200", "x"])) []
    run.value.2 = [.single "SCORE" .float "0"] ∧ run.log.Reports [.warning, .error] ∧
      scored.itemOutcome? heavyTest heavyScores "ITM-1" "SCORE" (some "WEIGHT") .error =
        pure (some ((Value.single .float "0").named "ITM-1.SCORE")) := by
  intro run
  let operand := product ["1e200", "1e200", "x"]
  have h : scored.AssignsCalculation (.assigning "SCORE" operand) operand .product
      (.number "SCORE") := ⟨by decide, by decide, rfl, by decide⟩
  obtain ⟨hcalculations, hoverflows⟩ := overflow_reported_iff scored []
  obtain ⟨hvalue, -, hreports⟩ := hcalculations _ _ _ _ h (by decide +kernel)
  obtain ⟨y, hproduct, hy⟩ : ∃ y,
      heavyTest.product? heavyScores "ITM-1" "SCORE" "WEIGHT" = some y ∧ y.isFinite = false :=
    Option.map_eq_some_iff.1 (by decide +kernel)
  refine ⟨?_, ?_, ?_⟩
  · rw [hvalue]
    decide
  · apply hreports.2
    exact .inr ⟨.single .float "x", by decide +kernel, "x", by decide, by decide⟩
  · exact hoverflows _ _ _ _ _ _ .error hproduct hy

/-- A product of large scores is lost, and so is a weighted score. -/
theorem overflow_lost_silently :
    let node : Node := .assigning "SCORE" (product ["1e200", "1e200"])
    let run := scored.execute node []
    let weighing : Scope :=
      { bare with subject := .test heavyTest heavyScores, label := "TST - R1" }
    let found := weighing.itemOutcome? heavyTest heavyScores "ITM-1" "SCORE" (some "WEIGHT") .error
    (scored.calculate [] .product (product ["1e200", "1e200"])).value.isFinite = false ∧
      (Variable.find? run.value.2 "SCORE").bind Variable.scalar = some "0" ∧ run.log = [] ∧
      (heavyTest.product? heavyScores "ITM-1" "SCORE" "WEIGHT").map Float.isFinite = some false ∧
      found.value.bind Value.scalar = some "0" ∧ found.log = [] := by
  decide +kernel

end Scope

end Rubric
