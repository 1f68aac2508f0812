import Rubric.Evaluate

namespace Rubric

variable {α β γ : Type} {view : Event → Option γ}

/-- The same value, and records of which an observer sees the same. -/
structure Logged.SameTo (view : Event → Option γ) (x y : Logged α) : Prop where
  value : y.value = x.value
  log : y.log.filterMap view = x.log.filterMap view

namespace Logged.SameTo

theorem refl (x : Logged α) : SameTo view x x := ⟨rfl, rfl⟩

theorem of_eq {x y : Logged α} (h : y = x) : SameTo view x y := by
  rw [h]
  exact refl x

theorem bind {x y : Logged α} {f g : α → Logged β} (h : SameTo view x y)
    (hf : ∀ a, SameTo view (f a) (g a)) : SameTo view (x >>= f) (y >>= g) where
  value := by rw [value_bind, value_bind, h.value, (hf x.value).value]
  log := by
    rw [log_bind, log_bind, List.filterMap_append, List.filterMap_append, h.log, h.value,
      (hf x.value).log]

theorem map {x y : Logged α} (h : SameTo view x y) (f : α → β) :
    SameTo view (f <$> x) (f <$> y) where
  value := by rw [value_map, value_map, h.value]
  log := by rw [log_map, log_map, h.log]

end Logged.SameTo

open Logged (SameTo)

/-- Names that an observer does not tell apart: problems that differ in them alone look the same. -/
def Indistinct (view : Event → Option γ) (a b : String) : Prop :=
  ∀ (label : String) (problem : String → Problem),
    (∀ c d, (problem c).severity = (problem d).severity) →
      view (.problem label (problem b)) = view (.problem label (problem a))

theorem indistinct_refl (view : Event → Option γ) (a : String) : Indistinct view a a :=
  fun _ _ _ => rfl

/-- Nodes of which rules read the same, their children aside, under names that an observer does not
tell apart. -/
structure Node.SameHead (view : Event → Option γ) (node node' : Node) : Prop where
  name : Indistinct view node.name node'.name
  tag : node'.tag = node.tag
  text : node'.text = node.text
  attribute? : ∀ name, node'.attribute? name = node.attribute? name

namespace Node.SameHead

variable {node node' : Node}

theorem of_fields (hname : node'.name = node.name) (hattributes : node'.attributes = node.attributes)
    (htext : node'.text = node.text) : SameHead view node node' where
  name := by
    rw [hname]
    exact indistinct_refl view node.name
  tag := by rw [Node.tag, Node.tag, hname]
  text := htext
  attribute? name := by rw [Node.attribute?, Node.attribute?, hattributes]

variable (h : SameHead view node node')

include h

theorem statement? : node'.statement? = node.statement? := by
  rw [Node.statement?, Node.statement?, h.tag]

theorem comparison? : node'.comparison? = node.comparison? := by
  rw [Node.comparison?, Node.comparison?, h.tag]

theorem predicate? : node'.predicate? = node.predicate? := by
  rw [Node.predicate?, Node.predicate?, h.tag]

theorem expression? : node'.expression? = node.expression? := by
  rw [Node.expression?, Node.expression?, h.tag]

theorem calculation? : node'.calculation? = node.calculation? := by
  rw [Node.calculation?, Node.calculation?, h.tag]

theorem identifier : node'.identifier = node.identifier := by
  rw [Node.identifier, Node.identifier, h.attribute?]

theorem filledAttribute? (name : String) :
    node'.filledAttribute? name = node.filledAttribute? name := by
  rw [Node.filledAttribute?, Node.filledAttribute?, h.attribute?]

theorem textValue : node'.textValue = node.textValue := by
  rw [Node.textValue, Node.textValue, h.text]

end Node.SameHead

def Config.capped (config : Config) (cap : Nat) : Config :=
  { config with maxBranchChildren := cap }

namespace Scope

variable {s : Scope} {cap cap' : Nat}

def capped (s : Scope) (cap : Nat) : Scope :=
  { s with config := s.config.capped cap }

section tags

variable {a b : String} (hab : Indistinct view a b)

include hab

theorem sameTo_fallback (problem : String → Problem)
    (hproblem : ∀ c d, (problem c).severity = (problem d).severity) (default : α) :
    SameTo view ((s.capped cap).fallback (problem a) default)
      ((s.capped cap').fallback (problem b) default) where
  value := rfl
  log := by
    have hlabel : (s.capped cap').label = (s.capped cap).label := rfl
    simp only [log_fallback, List.filterMap_cons, hlabel, hab _ problem hproblem]

theorem sameTo_containerOf? (cardinality : Cardinality) (values : List Value) :
    SameTo view ((s.capped cap).containerOf? a cardinality values)
      ((s.capped cap').containerOf? b cardinality values) := by
  simp only [containerOf?]
  cases values.find? fun v => v.baseType != (values.head?.map Value.baseType).getD .string with
  | none => exact .refl _
  | some other =>
    exact sameTo_fallback hab (fun tag => .baseTypesMixed tag _ other.baseType) (fun _ _ => rfl) none

theorem sameTo_numbersOf (texts : List String) :
    SameTo view ((s.capped cap).numbersOf a texts) ((s.capped cap').numbersOf b texts) := by
  induction texts with
  | nil => exact .refl _
  | cons text rest ih =>
    simp only [numbersOf]
    cases readNumber text with
    | ok x =>
      simp only [pure_bind]
      exact ih.bind fun _ => .refl _
    | error cause =>
      exact (sameTo_fallback hab (fun tag => .operandCountedAsZero tag cause) (fun _ _ => rfl)
        0.0).bind fun _ => ih.bind fun _ => .refl _

theorem sameTo_calculateOn (kind : Calculation) (xs : List Float) :
    SameTo view ((s.capped cap).calculateOn a kind xs) ((s.capped cap').calculateOn b kind xs) := by
  have hcount : SameTo view ((s.capped cap).fallback (.notTwoOperands a xs.length) (0.0 : Float))
      ((s.capped cap').fallback (.notTwoOperands b xs.length) 0.0) :=
    sameTo_fallback hab (fun tag => .notTwoOperands tag xs.length) (fun _ _ => rfl) 0.0
  cases kind with
  | sum => exact .refl _
  | product =>
    unfold calculateOn
    cases xs.isEmpty with
    | true => exact sameTo_fallback hab .operandsMissing (fun _ _ => rfl) 0.0
    | false => exact .refl _
  | subtract =>
    match xs with
    | [_, _] => exact .refl _
    | [] | [_] | _ :: _ :: _ :: _ => exact hcount
  | divide =>
    match xs with
    | [x, y] =>
      simp only [calculateOn]
      cases y == 0.0 with
      | true => exact sameTo_fallback hab .divisionByZero (fun _ _ => rfl) 0.0
      | false => exact .refl _
    | [] | [_] | _ :: _ :: _ :: _ => exact hcount

theorem sameTo_calculateFrom (kind : Calculation) (values : List Value) :
    SameTo view ((s.capped cap).calculateFrom a kind values)
      ((s.capped cap').calculateFrom b kind values) :=
  (sameTo_numbersOf hab _).bind fun xs => sameTo_calculateOn hab kind xs

theorem sameTo_pair? (values : List Value) :
    SameTo view ((s.capped cap).pair? a values) ((s.capped cap').pair? b values) := by
  match values with
  | [_, _] => exact .refl _
  | [] | [_] | _ :: _ :: _ :: _ =>
    exact sameTo_fallback hab (fun tag => .notTwoOperands tag _) (fun _ _ => rfl) none

theorem sameTo_ordering? (left right : Value) :
    SameTo view ((s.capped cap).ordering? a left right) ((s.capped cap').ordering? b left right) := by
  unfold ordering?
  split
  · exact sameTo_fallback hab (fun tag => .notNumericTypes tag left.baseType right.baseType)
      (fun _ _ => rfl) none
  · cases left.asNumber with
    | error cause =>
      exact sameTo_fallback hab (fun tag => .operandUnreadable tag cause) (fun _ _ => rfl) none
    | ok x =>
      cases right.asNumber with
      | error cause =>
        exact sameTo_fallback hab (fun tag => .operandUnreadable tag cause) (fun _ _ => rfl) none
      | ok y => exact .refl _

theorem sameTo_matchValues (left right : Value) :
    SameTo view ((s.capped cap).matchValues a left right)
      ((s.capped cap').matchValues b left right) := by
  have hinvalid : SameTo view ((s.capped cap).fallback (.membersInvalid a left.baseType) false)
      ((s.capped cap').fallback (.membersInvalid b left.baseType) false) :=
    sameTo_fallback hab (fun tag => .membersInvalid tag left.baseType) (fun _ _ => rfl) false
  unfold matchValues
  split
  · exact sameTo_fallback hab (fun tag => .baseTypesDiffer tag left.baseType right.baseType)
      (fun _ _ => rfl) false
  · cases canonicalTexts? left with
    | none => exact hinvalid
    | some xs =>
      cases canonicalTexts? right with
      | none => exact hinvalid
      | some ys => exact .refl _

theorem sameTo_isNullValue (values : List Value) :
    SameTo view ((s.capped cap).isNullValue a values) ((s.capped cap').isNullValue b values) := by
  match values with
  | [] | [_] => exact .refl _
  | _ :: _ :: _ =>
    exact sameTo_fallback hab (fun tag => .notOneValue tag _) (fun _ _ => rfl) false

theorem sameTo_valueHolds (value : Option Value) :
    SameTo view ((s.capped cap).valueHolds a value) ((s.capped cap').valueHolds b value) := by
  unfold valueHolds
  cases readBoolean ((value.bind Value.scalar).getD "") with
  | ok x => exact .refl _
  | error cause =>
    exact sameTo_fallback hab (fun tag => .conditionNotBoolean tag cause) (fun _ _ => rfl) false

end tags

theorem sumOutcomes_capped (test : Test) (table : OutcomeTable) (outcome : String)
    (weight : Option String) (total : Float) (refs : List ItemRef) :
    (s.capped cap).sumOutcomes test table outcome weight total refs =
      s.sumOutcomes test table outcome weight total refs := by
  have hitem (item : String) :
      (s.capped cap).itemOutcome? test table item outcome weight .warning =
        s.itemOutcome? test table item outcome weight .warning := rfl
  induction refs generalizing total with
  | nil => rfl
  | cons ref refs ih => simp only [sumOutcomes, hitem, ih]

section heads

variable {node node' : Node} (h : node.SameHead view node')

include h

theorem sameTo_variableValue (store : Store) :
    SameTo view ((s.capped cap).variableValue store node)
      ((s.capped cap').variableValue store node') := by
  simp only [variableValue, outcomeValue, h.identifier, h.filledAttribute?]
  exact .refl _

theorem sameTo_literal :
    SameTo view ((s.capped cap).literal node) ((s.capped cap').literal node') := by
  simp only [literal, h.attribute?, h.textValue, h.filledAttribute?]
  cases node.attribute? "baseType" with
  | none => exact .refl _
  | some spelling =>
    cases hspelling : BaseType.ofSpelling spelling with
    | ok baseType =>
      simp only [hspelling]
      exact .refl _
    | error normal =>
      simp only [hspelling]
      exact (sameTo_fallback h.name (fun tag => .baseTypeUnknown normal tag) (fun _ _ => rfl)
        BaseType.string).bind fun _ => .refl _

theorem sameTo_correctValue? :
    SameTo view ((s.capped cap).correctValue? node) ((s.capped cap').correctValue? node') := by
  have hsubject (cap : Nat) : (s.capped cap).subject = s.subject := rfl
  simp only [correctValue?, hsubject, h.identifier]
  cases s.subject with
  | item item responses => exact .refl _
  | test test table =>
    exact sameTo_fallback h.name .onlyInResponseProcessing (fun _ _ => rfl) none

theorem sameTo_aggregate? :
    SameTo view ((s.capped cap).aggregate? node) ((s.capped cap').aggregate? node') := by
  have hsubject (cap : Nat) : (s.capped cap).subject = s.subject := rfl
  have hfilter : CategoryFilter.ofNode node' = CategoryFilter.ofNode node := by
    simp only [CategoryFilter.ofNode, h.attribute?]
  simp only [aggregate?, hsubject, h.filledAttribute?, hfilter, sumOutcomes_capped]
  cases s.subject with
  | item item responses =>
    exact sameTo_fallback h.name .onlyInOutcomeProcessing (fun _ _ => rfl) none
  | test test table => exact .refl _

theorem sameTo_applyCustom (values : List Value) :
    SameTo view ((s.capped cap).applyCustom node values)
      ((s.capped cap').applyCustom node' values) := by
  have hname : operatorName node' = operatorName node := by
    simp only [operatorName, h.filledAttribute?]
  simp only [applyCustom, hname]
  exact .refl _

theorem sameTo_compareValues (kind : Comparison) (left right : Value) :
    SameTo view ((s.capped cap).compareValues node kind left right)
      ((s.capped cap').compareValues node' kind left right) := by
  have hordering (p : Option Ordering → Bool) :
      SameTo view ((s.capped cap).ordering? node.name left right >>= fun o => pure (p o))
        ((s.capped cap').ordering? node'.name left right >>= fun o => pure (p o)) :=
    (sameTo_ordering? h.name left right).bind fun _ => .refl _
  cases kind with
  | matching => exact sameTo_matchValues h.name left right
  | equal =>
    simp only [compareValues, h.filledAttribute?]
    cases node.filledAttribute? "toleranceMode" with
    | none => exact hordering _
    | some mode =>
      by_cases hmode : mode != "exact"
      · simp only [hmode]
        exact .refl _
      · simp only [hmode]
        exact hordering _
  | gt => exact hordering _
  | gte => exact hordering _
  | lt => exact hordering _
  | lte => exact hordering _

theorem sameTo_comparisonHolds (kind : Comparison) (values : List Value) :
    SameTo view ((s.capped cap).comparisonHolds node kind values)
      ((s.capped cap').comparisonHolds node' kind values) := by
  refine (sameTo_pair? h.name values).bind fun pair => ?_
  cases pair with
  | none => exact .refl _
  | some operands => exact sameTo_compareValues h kind operands.1 operands.2

theorem caseSensitive_congr (default : Bool) :
    caseSensitive node' default = caseSensitive node default := by
  rw [caseSensitive, caseSensitive, h.attribute?]

theorem sameTo_sameText (left right : Value) :
    SameTo view ((s.capped cap).sameText node left right)
      ((s.capped cap').sameText node' left right) := by
  have hsingle : SameTo view ((s.capped cap).fallback (.notSingleValues node.name) false)
      ((s.capped cap').fallback (.notSingleValues node'.name) false) :=
    sameTo_fallback h.name .notSingleValues (fun _ _ => rfl) false
  simp only [sameText, caseSensitive_congr h]
  cases left.scalar with
  | none => exact hsingle
  | some x =>
    cases right.scalar with
    | none => exact hsingle
    | some y => exact .refl _

theorem sameTo_occursIn (left right : Value) :
    SameTo view ((s.capped cap).occursIn node left right)
      ((s.capped cap').occursIn node' left right) := by
  simp only [occursIn, caseSensitive_congr h]
  split
  · exact sameTo_fallback h.name (fun tag => .notStringTypes tag left.baseType right.baseType)
      (fun _ _ => rfl) false
  · split
    · exact sameTo_fallback h.name .operandEmpty (fun _ _ => rfl) false
    · exact .refl _

end heads

end Scope

end Rubric
