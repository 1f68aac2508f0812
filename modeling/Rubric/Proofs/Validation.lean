import Rubric.Proofs.Foretold
import Rubric.Proofs.Responses
import Rubric.Proofs.Totals.Extension

namespace Rubric

namespace Node

variable {node : Node}

theorem families_of_expression? {kind : Expression} (h : node.expression? = some kind) :
    node.statement? = none ∧ node.comparison? = none ∧ node.predicate? = none := by
  rw [statement?, comparison?, predicate?]
  unfold expression? Expression.ofTag? at h
  split at h
  case h_8 => cases h
  all_goals
    rename_i htag
    rw [htag]
    exact ⟨rfl, rfl, rfl⟩

theorem role_eq_statement_iff {kind : Statement} :
    node.role = .statement kind ↔ node.statement? = some kind := by
  unfold role
  cases node.statement? with
  | some other => simp
  | none =>
    cases node.comparison? <;> cases node.predicate? <;> cases node.expression? <;>
      cases node.calculation? <;> simp
    split <;> simp

theorem role_eq_expression_iff {kind : Expression} :
    node.role = .expression kind ↔ node.expression? = some kind := by
  cases he : node.expression? with
  | some other =>
    obtain ⟨hs, hc, hp⟩ := families_of_expression? he
    simp [role, hs, hc, hp, he]
  | none =>
    simp only [role, he]
    cases node.statement? <;> cases node.comparison? <;> cases node.predicate? <;>
      cases node.calculation? <;> simp
    split <;> simp

theorem eq_name_of_role_eq_unknown {tag : String} (h : node.role = .unknown tag) :
    tag = node.name := by
  unfold role at h
  cases hs : node.statement? <;> cases hc : node.comparison? <;> cases hp : node.predicate? <;>
    cases he : node.expression? <;> cases hk : node.calculation? <;> simp [hs, hc, hp, he, hk] at h
  split at h
  · cases h
  · cases h
    rfl

theorem knowsTag_iff : knowsTag node.name = true ↔ ∀ tag, node.role ≠ .unknown tag := by
  have hrole : Node.role { name := node.name } = node.role := rfl
  rw [knowsTag, hrole]
  cases node.role <;> simp

end Node

namespace Registry

def keys (r : Registry) : List String :=
  r.entries.map Prod.fst

theorem isSome_find?_iff {r : Registry} {name : String} :
    (r.find? name).isSome = true ↔
      ∃ key ∈ r.keys, key = Text.lowerAscii (Text.trim name) ∨
        Text.afterLast ':' key = Text.afterLast ':' (Text.lowerAscii (Text.trim name)) := by
  simp only [find?, Option.isSome_map, Option.isSome_or, Bool.or_eq_true, List.find?_isSome,
    beq_iff_eq, (r.arrangement.perm r.entries).mem_iff]
  generalize Text.lowerAscii (Text.trim name) = wanted
  constructor
  · rintro (⟨e, he, hkey⟩ | ⟨e, he, hkey⟩)
    · exact ⟨e.1, List.mem_map_of_mem he, .inl hkey⟩
    · exact ⟨e.1, List.mem_map_of_mem he, .inr hkey⟩
  · rintro ⟨key, hmem, hkey⟩
    obtain ⟨e, he, rfl⟩ := List.mem_map.1 hmem
    exact hkey.imp (fun h => ⟨e, he, h⟩) fun h => ⟨e, he, h⟩

theorem isSome_find?_of_subset {r r' : Registry} (h : r.keys ⊆ r'.keys) {name : String}
    (hfound : (r.find? name).isSome = true) : (r'.find? name).isSome = true := by
  obtain ⟨key, hkey, hname⟩ := isSome_find?_iff.1 hfound
  exact isSome_find?_iff.2 ⟨key, h hkey, hname⟩

theorem mem_keys_register {r : Registry} {operator : CustomOperator} {key : String} :
    key ∈ (r.register operator).keys ↔ key ∈ r.keys ∨ key = Text.lowerAscii operator.name := by
  obtain ⟨entries, arrangement⟩ := r
  simp only [register, keys]
  generalize Text.lowerAscii operator.name = new
  induction entries with
  | nil => simp [put]
  | cons e rest ih =>
    by_cases he : e.1 = new
    · simp only [put, he, ↓reduceIte, List.map_cons, List.mem_cons]
      tauto
    · simp only [put, he, ↓reduceIte, List.map_cons, List.mem_cons, ih]
      tauto

theorem keys_registerAll_subset {r r' : Registry} (h : r.keys ⊆ r'.keys)
    (operators : List CustomOperator) :
    (r.registerAll operators).keys ⊆ (r'.registerAll operators).keys := by
  induction operators generalizing r r' with
  | nil => exact h
  | cons operator rest ih =>
    apply ih
    intro key hkey
    rw [mem_keys_register] at hkey ⊢
    exact hkey.imp_left (@h key)

end Registry

namespace Package

variable {registry : Registry} {ds : List OutcomeDeclaration}

theorem nodeFlaw?_eq_none_iff {node : Node} :
    nodeFlaw? registry ds node = none ↔ knowsTag node.name = true ∧
      (node.expression? = some .customOperator →
        (registry.find? (Scope.operatorName node)).isSome = true) ∧
      (node.statement? = some .setOutcomeValue → ∃ d ∈ ds, d.identifier = node.identifier) := by
  rw [Node.knowsTag_iff, ← Node.role_eq_expression_iff, ← Node.role_eq_statement_iff]
  unfold nodeFlaw?
  cases node.role with
  | statement kind => cases kind <;> simp
  | comparison kind => simp
  | predicate kind => simp
  | expression kind => cases kind <;> simp [Option.isNone_iff_eq_none, Option.isSome_iff_ne_none]
  | calculation kind => simp
  | root => simp
  | unknown tag => simp

theorem treeFlaws_eq_nil_iff {root : Node} :
    treeFlaws registry ds root = [] ↔
      ∀ c ∈ root.children, ∀ n ∈ c.preorder, nodeFlaw? registry ds n = none := by
  simp only [treeFlaws, List.filterMap_eq_nil_iff, List.mem_flatMap, Node.descendants_eq_preorder,
    forall_exists_index, and_imp]
  exact ⟨fun h c hc n hn => h n c hc hn, fun h n c hc hn => h c hc n hn⟩

theorem repeatedItems_eq_nil_iff {seen : List String} {items : List Item} :
    repeatedItems seen items = [] ↔ firstRepeated seen (items.map Item.identifier) = none := by
  induction items generalizing seen with
  | nil => simp [repeatedItems, firstRepeated]
  | cons item items ih =>
    simp only [repeatedItems, List.map_cons, firstRepeated]
    split
    · simp
    · exact ih

theorem validate_eq_nil_iff {package : Package} :
    package.validate registry = [] ↔ (package.items.map Item.identifier).Nodup ∧
      (∀ item ∈ package.items, itemFlaws registry item = []) ∧
      ∀ test ∈ package.test,
        testFlaws registry (package.items.map Item.identifier) test = [] := by
  simp [validate, repeatedItems_eq_nil_iff, firstRepeated_eq_none_iff]

theorem treeFlaws_of_itemFlaws {item : Item} (h : itemFlaws registry item = []) :
    ∀ root ∈ item.processing, treeFlaws registry item.outcomes root = [] := by
  intro root hroot
  have hprocessing : item.processing = some root := hroot
  rwa [itemFlaws, hprocessing] at h

theorem treeFlaws_of_testFlaws {items : List String} {test : Test}
    (h : testFlaws registry items test = []) :
    ∀ root ∈ test.processing, treeFlaws registry test.outcomes root = [] := by
  intro root hroot
  have hprocessing : test.processing = some root := hroot
  rw [testFlaws, hprocessing] at h
  exact (List.append_eq_nil_iff.1 (List.append_eq_nil_iff.1 h).2).2

end Package

namespace Scope

variable {s : Scope} {registry : Registry} {ds : List OutcomeDeclaration}

/-- What was checked against a registry and declarations holds where there are at least these. -/
theorem vets_of_nodeFlaw? {node : Node} (hkeys : registry.keys ⊆ s.registry.keys)
    (hds : ∀ d ∈ ds, (s.outcome? d.identifier).isSome = true)
    (h : Package.nodeFlaw? registry ds node = none) : s.Vets node := by
  obtain ⟨hknows, hoperator, htarget⟩ := Package.nodeFlaw?_eq_none_iff.1 h
  refine ⟨hknows, fun he => Registry.isSome_find?_of_subset hkeys (hoperator he), fun hs => ?_⟩
  obtain ⟨d, hd, hid⟩ := htarget hs
  exact hid ▸ hds d hd

theorem vetsTree_of_treeFlaws {root : Option Node} (hkeys : registry.keys ⊆ s.registry.keys)
    (hds : ∀ d ∈ ds, (s.outcome? d.identifier).isSome = true)
    (h : ∀ node ∈ root, Package.treeFlaws registry ds node = []) :
    ∀ n ∈ Node.statementsUnder root, s.VetsTree n := by
  intro n hn m hm
  cases root with
  | none => cases hn
  | some node =>
    exact vets_of_nodeFlaw? hkeys hds (Package.treeFlaws_eq_nil_iff.1 (h node rfl) n hn m hm)

theorem vetsTree_statement {d : DerivedTotal} (h : (s.outcome? d.identifier).isSome = true) :
    s.VetsTree d.statement := by
  have hassignment : knowsTag "qti-set-outcome-value" = true := by decide +kernel
  have haggregate : knowsTag "qti-test-variables" = true := by decide +kernel
  intro n hn
  rw [DerivedTotal.preorder_statement] at hn
  rcases List.mem_pair.1 hn with rfl | rfl
  · obtain ⟨he, -, -, -⟩ := Node.families_of_statement? d.statement?_statement
    have hid : d.statement.identifier = d.identifier := by
      rw [Node.identifier, DerivedTotal.attribute?_statement, Option.getD_some]
    refine ⟨hassignment, fun hoperator => ?_, fun _ => hid ▸ h⟩
    rw [he] at hoperator
    cases hoperator
  · refine ⟨haggregate, fun hoperator => ?_, fun htarget => ?_⟩
    · rw [DerivedTotal.expression?_aggregate] at hoperator
      cases hoperator
    · rw [DerivedTotal.statement?_aggregate] at htarget
      cases htarget

end Scope

namespace Environment

variable {env : Environment} {registry : Registry}

theorem vetsTree_of_itemFlaws (hkeys : registry.keys ⊆ env.registry.keys) {item : Item}
    (h : Package.itemFlaws registry item = []) (responses : List Variable) (result : String) :
    ∀ n ∈ Node.statementsUnder item.processing,
      (env.itemScope item responses result).VetsTree n :=
  Scope.vetsTree_of_treeFlaws hkeys (fun _ hd => OutcomeDeclaration.isSome_find?_of_mem hd)
    (Package.treeFlaws_of_itemFlaws h)

theorem vetsTree_of_testFlaws (hkeys : registry.keys ⊆ env.registry.keys) {items : List String}
    {test : Test} (h : Package.testFlaws registry items test = []) (itemResults : List ItemResult)
    (result : String) :
    ∀ n ∈ Node.statementsUnder test.processing,
      (env.testScope test itemResults result).VetsTree n :=
  Scope.vetsTree_of_treeFlaws hkeys (fun _ hd => OutcomeDeclaration.isSome_find?_of_mem hd)
    (Package.treeFlaws_of_testFlaws h)

/-- The checker sees a test before totals are added to it. What it said of the rules still holds
beside more declarations, and the added rules need no checking. -/
theorem vetsTree_withDerivedTotals (hkeys : registry.keys ⊆ env.registry.keys)
    {items : List String} {test : Test} (h : Package.testFlaws registry items test = [])
    (itemResults : List ItemResult) (result : String) :
    ∀ n ∈ Node.statementsUnder test.withDerivedTotals.processing,
      (env.testScope test.withDerivedTotals itemResults result).VetsTree n := by
  intro n hn
  have hrules : Node.statementsUnder test.withDerivedTotals.processing =
      test.processingRoot.children ++ test.missingTotals.map DerivedTotal.statement := rfl
  rw [hrules, Test.children_processingRoot] at hn
  rcases List.mem_append.1 hn with hauthored | hadded
  · refine Scope.vetsTree_of_treeFlaws hkeys (fun d hd => ?_) (Package.treeFlaws_of_testFlaws h) n
      hauthored
    change (test.withDerivedTotals.outcome? d.identifier).isSome = true
    have hdeclared : (test.outcome? d.identifier).isSome = true :=
      OutcomeDeclaration.isSome_find?_of_mem hd
    rw [Test.outcome?_withDerivedTotals, Option.isSome_or, hdeclared, Bool.true_or]
  · obtain ⟨d, hd, rfl⟩ := List.mem_map.1 hadded
    exact Scope.vetsTree_statement
      (Test.writable_of_mem_missingTotals hd env itemResults result).declared

end Environment

namespace Engine

variable {engine : Engine} {stage : Stage}

theorem checkInputs_eq_ok (hitems : stage.includesResponses = true → engine.items ≠ [])
    (htest : stage.includesOutcomes = true → engine.test.isSome = true) :
    engine.checkInputs stage = .ok () := by
  have hempty : (stage.includesResponses && engine.items.isEmpty) = false := by
    cases hr : stage.includesResponses with
    | false => rfl
    | true => simpa using hitems hr
  have hnone : (stage.includesOutcomes && engine.test.isNone) = false := by
    cases ho : stage.includesOutcomes with
    | false => rfl
    | true => simpa [Option.isSome_iff_ne_none] using htest ho
  simp [checkInputs, hempty, hnone]

theorem unforeseen_score
    (hitems : ∀ item ∈ engine.items, ∀ responses label,
      ∀ n ∈ Node.statementsUnder item.processing,
        (engine.environment.itemScope item responses label).VetsTree n)
    (htest : ∀ test ∈ engine.test, ∀ itemResults label,
      ∀ n ∈ Node.statementsUnder test.processing,
        (engine.environment.testScope test itemResults label).VetsTree n)
    (result : AssessmentResult) : (engine.score stage result).Unforeseen := by
  have hitems' (rest : AssessmentResult → Logged AssessmentResult)
      (hrest : ∀ scored, (rest scored).Unforeseen) :
      (if stage.includesResponses = true then
        engine.environment.scoreItems engine.items result >>= rest
      else pure result >>= rest).Unforeseen := by
    split
    · exact (Environment.unforeseen_scoreItems hitems).bind hrest
    · exact (Logged.unforeseen_pure result).bind hrest
  simp only [score]
  apply hitems'
  intro scored
  split
  · next test _ h => exact Environment.unforeseen_scoreTest (htest test h _ _)
  · exact Logged.unforeseen_pure scored

end Engine

theorem Problem.foreseeable_eq_false_iff {problem : Problem} :
    problem.foreseeable = false ↔ (∀ identifier, problem ≠ .targetUndeclared identifier) ∧
      (∀ name, problem ≠ .operatorUnregistered name) ∧
      ∀ tag, problem = .unknownStatement tag ∨ problem = .unknownCondition tag ∨
        problem = .unknownExpression tag → knowsTag tag = true := by
  cases problem <;> simp [foreseeable]

namespace Package

def engineInput (package : Package) (operators : List CustomOperator)
    (checker : EquivalenceChecker) (config : Config) (arrangement : Arrangement) :
    EngineInput where
  items := package.items
  test := package.test
  operators
  checker
  config
  arrangement

/-- Validation is sound for scoring. A package without flaws makes an engine, provided that this has
all operators that the package was checked with, and whatever the engine scores, it meets neither an
assignment to an undeclared outcome nor an operator that is not registered, and tags that it has no
use for are part of the vocabulary all the same. -/
theorem scoring_of_validated {package : Package} {registry : Registry}
    (hvalid : package.validate registry = []) {operators : List CustomOperator}
    {checker : EquivalenceChecker}
    (hkeys : registry.keys ⊆ ((Registry.standard checker).registerAll operators).keys)
    {config : Config} (hconfig : config.validate = .ok ()) (arrangement : Arrangement) :
    ∃ engine, Engine.build (package.engineInput operators checker config arrangement) =
        .ok engine ∧
      ∀ (stage : Stage) (result : AssessmentResult),
        (stage.includesResponses = true → package.items ≠ []) →
        (stage.includesOutcomes = true → package.test.isSome = true) →
        ∃ run, engine.scoreResult stage result = .ok run ∧
          ∀ label problem, .problem label problem ∈ run.log →
            (∀ identifier, problem ≠ .targetUndeclared identifier) ∧
            (∀ name, problem ≠ .operatorUnregistered name) ∧
            ∀ tag, problem = .unknownStatement tag ∨ problem = .unknownCondition tag ∨
              problem = .unknownExpression tag → knowsTag tag = true := by
  obtain ⟨hnodup, hitems, htest⟩ := validate_eq_nil_iff.1 hvalid
  let engine := Engine.assemble (package.engineInput operators checker config arrangement)
  refine ⟨engine, Engine.build_eq_ok_iff.2 ⟨hconfig, hnodup, rfl⟩, ?_⟩
  intro stage result hneedsItems hneedsTest
  have hpresent : engine.test.isSome = package.test.isSome := by
    change (if config.deriveTotals then package.test.map _ else package.test).isSome = _
    split
    · rw [Option.isSome_map]
    · rfl
  have hcheck : engine.checkInputs stage = .ok () :=
    Engine.checkInputs_eq_ok hneedsItems (hpresent ▸ hneedsTest)
  have hscore : (engine.score stage result).Unforeseen := by
    apply Engine.unforeseen_score
    · intro item hitem
      exact Environment.vetsTree_of_itemFlaws hkeys (hitems item hitem)
    · intro test hmem itemResults label
      change test ∈ if config.deriveTotals then package.test.map Test.withDerivedTotals
        else package.test at hmem
      split at hmem
      · obtain ⟨authored, hauthored, rfl⟩ := Option.mem_map.1 hmem
        exact Environment.vetsTree_withDerivedTotals hkeys (htest authored hauthored) _ _
      · exact Environment.vetsTree_of_testFlaws hkeys (htest test hmem) _ _
  refine ⟨engine.score stage result, ?_, fun label problem hp => ?_⟩
  · rw [Engine.scoreResult_eq, hcheck]
    rfl
  · exact Problem.foreseeable_eq_false_iff.1 (hscore label problem hp)

/-- An operator that leaves a value as it is. -/
def echo : CustomOperator where
  name := "acme:Echo"
  apply values := pure (values.head?.getD (.string ""))

/-- A package whose item has a rule in a place where it cannot be followed. -/
def misplaced : Package where
  test := some { identifier := "TST", itemRefs := [{ identifier := "ITM-1" }] }
  items := [{
    identifier := "ITM-1"
    outcomes := [.number "SCORE"]
    processing := some {
      name := "responseProcessing"
      children := [
        .reading "SCORE",
        .assigning "SCORE" {
          name := "customOperator"
          attributes := .ofList [("class", "Echo")]
          children := [.constant "float" "2"] }] } }]

theorem misplaced_rule_scored :
    let registry := Registry.registerAll {} [echo]
    let result : AssessmentResult :=
      { identifier := "R1", itemResults := [{ identifier := "ITM-1" }] }
    misplaced.validate registry = [] ∧
    ∃ engine run,
      Engine.build (misplaced.engineInput [echo] .textual {} .registered) = .ok engine ∧
      engine.scoreResult .all result = .ok run ∧
      .problem "ITM-1 - R1" (.unknownStatement "variable") ∈ run.log ∧
      ∀ label problem, .problem label problem ∈ run.log → problem.foreseeable = false := by
  intro registry result
  have hvalid : misplaced.validate registry = [] := by decide +kernel
  have hkeys : registry.keys ⊆ ((Registry.standard .textual).registerAll [echo]).keys :=
    Registry.keys_registerAll_subset (List.nil_subset _) [echo]
  obtain ⟨engine, hbuilt, hscored⟩ := @scoring_of_validated misplaced registry hvalid [echo] .textual
    hkeys {} rfl .registered
  obtain ⟨run, hrun, hproblems⟩ := hscored .all result (fun _ => List.cons_ne_nil _ _) fun _ => rfl
  refine ⟨hvalid, engine, run, hbuilt, hrun, ?_, fun label problem hp => ?_⟩
  · obtain ⟨-, -, rfl⟩ := Engine.build_eq_ok_iff.1 hbuilt
    obtain rfl : (Engine.assemble _).score .all result = run := Except.ok.inj hrun
    decide +kernel
  · exact Problem.foreseeable_eq_false_iff.2 (hproblems label problem hp)

end Package

end Rubric
