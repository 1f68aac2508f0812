import Rubric.Proofs.Aggregate
import Rubric.Proofs.Execution
import Rubric.Proofs.Totals.Identifiers

namespace Rubric

namespace DerivedTotal

/-- The items that a total is about: all, or those with the first word of its category. -/
def covers (d : DerivedTotal) (ref : ItemRef) : Bool :=
  d.category.all fun c => (Text.words c).head?.any ref.categories.contains

/-- The sum that a total reports, added up from left to right. -/
def sum (d : DerivedTotal) (test : Test) (results : List ItemResult) : Float :=
  ((test.itemRefs.filter d.covers).filterMap (test.share? results score d.weight)).foldl
    (· + ·) 0.0

theorem entries_aggregate (d : DerivedTotal) :
    d.aggregate.attributes.entries =
      (d.category.map fun c => ("include-category", c)).toList ++
        ("variable-identifier", score) ::
          (d.weight.map fun w => ("weight-identifier", w)).toList := by
  have hvw : "variable-identifier" < "weight-identifier" := by decide
  have hwv : ¬"weight-identifier" < "variable-identifier" := by decide
  have hcv : "include-category" < "variable-identifier" := by decide
  obtain ⟨identifier, weight, category⟩ := d
  cases weight <;> cases category <;>
    simp [aggregate, Dictionary.ofList, Dictionary.insert, Dictionary.insertEntry, hvw, hwv, hcv]

theorem normalAttribute_aggregate :
    normalAttribute "include-category" = "includecategory" ∧
      normalAttribute "variable-identifier" = "variableidentifier" ∧
        normalAttribute "weight-identifier" = "weightidentifier" := by
  decide

theorem attribute?_aggregate (d : DerivedTotal) (name : String) :
    d.aggregate.attribute? name =
      if normalAttribute name = "includecategory" then d.category
      else if normalAttribute name = "variableidentifier" then some score
      else if normalAttribute name = "weightidentifier" then d.weight
      else none := by
  obtain ⟨hc, hv, hw⟩ := normalAttribute_aggregate
  rw [Node.attribute?, entries_aggregate]
  generalize normalAttribute name = n
  obtain ⟨identifier, weight, category⟩ := d
  by_cases h₁ : n = "includecategory"
  · subst h₁
    cases weight <;> cases category <;> simp [hc, hv, hw]
  by_cases h₂ : n = "variableidentifier"
  · subst h₂
    cases weight <;> cases category <;> simp [hc, hv]
  by_cases h₃ : n = "weightidentifier"
  · subst h₃
    cases weight <;> cases category <;> simp [hc, hv, hw]
  have hne (s : String) (h : ¬n = s) : (s == n) = false := by simpa using fun he => h he.symm
  cases weight <;> cases category <;>
    simp [hc, hv, hw, h₁, h₂, h₃, hne _ h₁, hne _ h₂, hne _ h₃]

theorem attributes_aggregate (d : DerivedTotal) :
    d.aggregate.attribute? "includeCategory" = d.category ∧
      d.aggregate.attribute? "excludeCategory" = none ∧
        d.aggregate.attribute? "variableIdentifier" = some score ∧
          d.aggregate.attribute? "weightIdentifier" = d.weight := by
  have hi : normalAttribute "includeCategory" = "includecategory" := by decide
  have he : normalAttribute "excludeCategory" = "excludecategory" := by decide
  have hv : normalAttribute "variableIdentifier" = "variableidentifier" := by decide
  have hw : normalAttribute "weightIdentifier" = "weightidentifier" := by decide
  simp [attribute?_aggregate, hi, he, hv, hw]

theorem attribute?_statement (d : DerivedTotal) :
    d.statement.attribute? "identifier" = some d.identifier := by
  simp [Node.attribute?, statement, Dictionary.ofList, Dictionary.insert, Dictionary.insertEntry]

theorem statement?_statement (d : DerivedTotal) :
    d.statement.statement? = some .setOutcomeValue := by
  have h : normalTag "qti-set-outcome-value" = "setoutcomevalue" := by decide
  simp only [Node.statement?, Node.tag, statement, h, Statement.ofTag?]

theorem expression?_aggregate (d : DerivedTotal) :
    d.aggregate.expression? = some .testVariables := by
  have h : normalTag "qti-test-variables" = "testvariables" := by decide
  simp only [Node.expression?, Node.tag, aggregate, h, Expression.ofTag?]

theorem calculation?_aggregate (d : DerivedTotal) : d.aggregate.calculation? = none := by
  have h : normalTag "qti-test-variables" = "testvariables" := by decide
  have hsum : Calculation.ofTag? "testvariables" = none := by decide
  rw [Node.calculation?, Node.tag, aggregate, h, hsum]

theorem statement?_aggregate (d : DerivedTotal) : d.aggregate.statement? = none := by
  have h : normalTag "qti-test-variables" = "testvariables" := by decide
  have hnone : Statement.ofTag? "testvariables" = none := by decide
  rw [Node.statement?, Node.tag, aggregate, h, hnone]

theorem preorder_statement (d : DerivedTotal) :
    d.statement.preorder = [d.statement, d.aggregate] := by
  simp only [Node.preorder_eq, Node.preorderAll, statement, aggregate, List.append_nil]

theorem eq_of_mem_targets {d : DerivedTotal} {x : String} (h : x ∈ d.statement.targets) :
    d.identifier = x := by
  obtain ⟨n, hn, hstatement, hattribute⟩ := Node.mem_targets.1 h
  rw [preorder_statement] at hn
  rcases List.mem_pair.1 hn with rfl | rfl
  · rw [Node.filledAttribute?, attribute?_statement] at hattribute
    exact Option.some_inj.1 (Option.filter_eq_some_iff.1 hattribute).1
  · rw [statement?_aggregate] at hstatement
    cases hstatement

theorem within_statements (totals : List DerivedTotal) :
    ∀ n ∈ totals.map statement, n.Within Set.univ {x | x ∈ totals.map identifier} := by
  intro n hn
  obtain ⟨d, hd, rfl⟩ := List.mem_map.1 hn
  refine ⟨fun _ _ => trivial, fun x hx => ?_⟩
  exact List.mem_map.2 ⟨d, hd, eq_of_mem_targets hx⟩

/-- The attributes of a total survive being written down as attributes and read back. -/
structure Regular (d : DerivedTotal) : Prop where
  identifier : Text.allBlank d.identifier = false
  weight : ∀ w ∈ d.weight, Text.allBlank w = false
  category : ∀ c ∈ d.category, (Text.words c).head?.isSome = true

theorem Regular.filledAttribute?_statement {d : DerivedTotal} (h : d.Regular) :
    d.statement.filledAttribute? "identifier" = some d.identifier := by
  rw [Node.filledAttribute?, attribute?_statement]
  simp [h.identifier]

theorem filledAttribute?_aggregate_variableIdentifier (d : DerivedTotal) :
    d.aggregate.filledAttribute? "variableIdentifier" = some score := by
  have hscore : Text.allBlank score = false := by decide
  obtain ⟨-, -, hv, -⟩ := d.attributes_aggregate
  rw [Node.filledAttribute?, hv]
  simp [hscore]

theorem Regular.filledAttribute?_aggregate {d : DerivedTotal} (h : d.Regular) :
    d.aggregate.filledAttribute? "weightIdentifier" = d.weight := by
  obtain ⟨-, -, -, hweight⟩ := d.attributes_aggregate
  rw [Node.filledAttribute?, hweight]
  cases hw : d.weight with
  | none => rfl
  | some w =>
    have hb := h.weight w hw
    simp [hb]

/-- The filter of an aggregate keeps exactly the items that its total covers. -/
theorem Regular.admits_aggregate {d : DerivedTotal} (h : d.Regular) (ref : ItemRef) :
    (CategoryFilter.ofNode d.aggregate).admits ref = d.covers ref := by
  obtain ⟨hi, he, -, -⟩ := d.attributes_aggregate
  simp only [CategoryFilter.admits, CategoryFilter.ofNode, covers, hi, he]
  cases hc : d.category with
  | none => rfl
  | some c =>
    obtain ⟨word, hword⟩ := Option.isSome_iff_exists.1 (h.category c hc)
    simp [hword]

/-- The warnings that a total gives rise to, at most one for each item that it covers. -/
def warnings (d : DerivedTotal) (test : Test) (results : List ItemResult) (label : String) :
    List Diagnostic :=
  ((test.itemRefs.filter d.covers).filterMap (test.remark? results score d.weight)).map fun p =>
    ⟨.warning, s!"{label}: {p.message}"⟩

variable {s : Scope} {test : Test} {results : List ItemResult}

theorem Regular.aggregate?_aggregate {d : DerivedTotal} (h : d.Regular)
    (hs : s.subject = .test test (.ofResults results)) :
    (s.aggregate? d.aggregate).value = some ((Value.number (d.sum test results)).named score) ∧
      (s.aggregate? d.aggregate).log.diagnostics = d.warnings test results s.label := by
  have hfilter : test.itemRefs.filter (CategoryFilter.ofNode d.aggregate).admits =
      test.itemRefs.filter d.covers :=
    List.filter_congr fun ref _ => h.admits_aggregate ref
  have hrefs : ∀ ref ∈ test.itemRefs.filter d.covers, ref ∈ test.itemRefs :=
    fun ref href => List.mem_of_mem_filter href
  simp only [Scope.aggregate?, hs, filledAttribute?_aggregate_variableIdentifier,
    h.filledAttribute?_aggregate, hfilter]
  constructor
  · simp only [Logged.value_bind, Logged.value_pure,
      s.value_sumOutcomes results score d.weight hrefs]
    rfl
  · simp only [Logged.log_bind, Logged.log_pure, List.append_nil,
      s.diagnostics_sumOutcomes results score d.weight hrefs]
    rfl

theorem Regular.execute_statement {d : DerivedTotal} (h : d.Regular)
    (hs : s.subject = .test test (.ofResults results)) {declaration : OutcomeDeclaration}
    (hd : s.outcome? d.identifier = some declaration) (store : Store) :
    (s.execute d.statement store).value.2 =
        store.write declaration (.number (d.sum test results)) ∧
      (s.execute d.statement store).log.diagnostics = d.warnings test results s.label := by
  obtain ⟨hvalue, hlog⟩ := h.aggregate?_aggregate hs
  have hchildren : d.statement.children = [d.aggregate] := rfl
  rw [Scope.execute_of_setOutcomeValue d.statement?_statement]
  simp only [Scope.setOutcome, h.filledAttribute?_statement, hd, hchildren, Scope.assignedValue?,
    List.head?_cons, Option.bind_some, d.calculation?_aggregate, Option.map_none,
    Scope.resolveAll, Scope.resolve_of_testVariables d.expression?_aggregate, Logged.value_bind,
    Logged.log_bind, Logged.value_pure, Logged.log_pure, hvalue, Option.toList_some,
    List.append_nil, Scope.assigned?]
  exact ⟨Store.write_named .., hlog⟩

end DerivedTotal

theorem Test.regular_of_mem_derivedTotals {test : Test} {d : DerivedTotal}
    (h : d ∈ test.derivedTotals) : d.Regular where
  identifier := by
    have hd := List.mem_map_of_mem (f := DerivedTotal.identifier) h
    rw [map_identifier_derivedTotals, List.mem_cons, List.mem_map] at hd
    have hS : Text.isBlank 'S' = false := by decide
    rcases hd with hplain | ⟨ending, -, hending⟩
    · rw [hplain]
      decide
    · rw [← hending, DerivedTotal.identifierOf, Text.allBlank, String.toList_append]
      simp [hS]
  weight := by
    intro w hw
    have hname : Text.allBlank DerivedTotal.weightName = false := by decide
    have hweight : d.weight = none ∨ d.weight = some DerivedTotal.weightName := by
      rcases mem_derivedTotals.1 h with ho | ⟨c, -, hc⟩
      · rcases List.mem_pair.1 ho with rfl | rfl <;> simp
      · rcases List.mem_pair.1 hc with rfl | rfl <;> simp
    rcases hweight with hnone | hsome
    · simp [hnone] at hw
    · rw [hsome] at hw
      cases hw
      exact hname
  category := by
    intro c hc
    rcases mem_derivedTotals.1 h with ho | ⟨e, he, hd⟩
    · rcases List.mem_pair.1 ho with rfl | rfl <;> cases hc
    · obtain ⟨ref, -, raw, -, hraw, rfl⟩ := mem_categories.1 he
      have hword := Text.head?_words_trim hraw
      rcases List.mem_pair.1 hd with rfl | rfl <;> cases hc <;> simp [hword]

end Rubric
