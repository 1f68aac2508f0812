import Rubric.Package
import Rubric.Proofs.Unforeseen

namespace Rubric

/-- The flaw of the rules that a problem shows, for those that can be foreseen. -/
def Problem.flaw? : Problem → Option Flaw
  | targetUndeclared identifier => some (.targetUndeclared identifier)
  | operatorUnregistered name => some (.operatorUnregistered name)
  | unknownStatement tag | unknownCondition tag | unknownExpression tag =>
    if knowsTag tag then none else some (.tagUnsupported tag)
  | _ => none

theorem Problem.isSome_flaw? (problem : Problem) : problem.flaw?.isSome = problem.foreseeable := by
  cases problem
  case unknownStatement tag | unknownCondition tag | unknownExpression tag =>
    cases htag : knowsTag tag <;> simp [flaw?, foreseeable, htag]
  all_goals rfl

namespace Logged

variable {α β : Type} {x : Logged α} {f : α → Logged β} {F : Flaw → Prop}

/-- All flaws that the problems on record show are among some. -/
def Foretold (x : Logged α) (F : Flaw → Prop) : Prop :=
  ∀ label problem, .problem label problem ∈ x.log → ∀ flaw ∈ problem.flaw?, F flaw

theorem foretold_pure (a : α) : (pure a : Logged α).Foretold F := by
  intro label problem h
  cases h

theorem Foretold.bind (hx : x.Foretold F) (hf : ∀ a, (f a).Foretold F) :
    (x >>= f).Foretold F := by
  intro label problem hp
  rcases List.mem_append.1 hp with hmem | hmem
  · exact hx label problem hmem
  · exact hf x.value label problem hmem

theorem Unforeseen.foretold (hx : x.Unforeseen) : x.Foretold F := by
  intro label problem hp flaw hflaw
  have hsome := problem.isSome_flaw?
  rw [hx label problem hp, Option.isSome_eq_false_iff, Option.isNone_iff_eq_none] at hsome
  rw [hsome] at hflaw
  cases hflaw

theorem Foretold.unforeseen (hx : x.Foretold fun _ => False) : x.Unforeseen := by
  intro label problem hp
  rw [← problem.isSome_flaw?, Option.isSome_eq_false_iff, Option.isNone_iff_eq_none,
    Option.eq_none_iff_forall_not_mem]
  exact hx label problem hp

end Logged

open Logged (unforeseen_pure unforeseen_problem foretold_pure)

namespace Scope

/-- A node whose flaws in a scope are among some. -/
structure Foretells (s : Scope) (F : Flaw → Prop) (node : Node) : Prop where
  tag : knowsTag node.name = false → F (.tagUnsupported node.name)
  operator : node.expression? = some .customOperator →
    s.registry.find? (operatorName node) = none → F (.operatorUnregistered (operatorName node))
  target : node.statement? = some .setOutcomeValue →
    s.outcome? node.identifier = none → F (.targetUndeclared node.identifier)

def ForetellsTree (s : Scope) (F : Flaw → Prop) (node : Node) : Prop :=
  ∀ n ∈ node.preorder, s.Foretells F n

variable {s : Scope} {node : Node} {nodes : List Node} {store : Store} {F : Flaw → Prop}

theorem foretold_fallback {α : Type} {problem : Problem} (h : ∀ flaw ∈ problem.flaw?, F flaw)
    (default : α) : (s.fallback problem default).Foretold F := by
  intro l p hp
  cases List.mem_singleton.1 hp
  exact h

theorem ForetellsTree.head (h : s.ForetellsTree F node) : s.Foretells F node :=
  h node (Node.mem_preorder.2 (.inl rfl))

theorem ForetellsTree.child (h : s.ForetellsTree F node) {c : Node} (hc : c ∈ node.children) :
    s.ForetellsTree F c :=
  fun n hn => h n (Node.mem_preorder.2 (.inr ⟨c, hc, hn⟩))

theorem ForetellsTree.unknown (h : s.ForetellsTree F node) (problem : String → Problem)
    (hproblem : (problem node.name).flaw? =
      if knowsTag node.name then none else some (.tagUnsupported node.name))
    {α : Type} (default : α) : (s.fallback (problem node.name) default).Foretold F := by
  apply foretold_fallback
  intro flaw hflaw
  rw [hproblem] at hflaw
  cases hknows : knowsTag node.name with
  | true =>
    rw [hknows, if_pos rfl] at hflaw
    cases hflaw
  | false =>
    rw [hknows, if_neg Bool.false_ne_true] at hflaw
    cases hflaw
    exact h.head.tag hknows

theorem ForetellsTree.applyCustom (h : s.ForetellsTree F node)
    (he : node.expression? = some .customOperator) (values : List Value) :
    (s.applyCustom node values).Foretold F := by
  cases hfound : s.registry.find? (operatorName node) with
  | some operator =>
    have hregistered : (s.registry.find? (operatorName node)).isSome = true := by
      rw [hfound]
      rfl
    exact (s.unforeseen_applyCustom node values hregistered).foretold
  | none =>
    simp only [Scope.applyCustom, hfound]
    apply foretold_fallback
    intro flaw hflaw
    cases hflaw
    exact h.head.operator he hfound

theorem foretold_resolveAll (h : ∀ n ∈ nodes, (s.resolve store n).Foretold F) :
    (s.resolveAll store nodes).Foretold F := by
  induction nodes with
  | nil =>
    simp only [resolveAll]
    exact foretold_pure _
  | cons node rest ih =>
    simp only [resolveAll]
    refine (h node (.head _)).bind fun _ => ?_
    exact (ih fun n hn => h n (.tail _ hn)).bind fun _ => foretold_pure _

theorem ForetellsTree.resolve (h : s.ForetellsTree F node) (store : Store) :
    (s.resolve store node).Foretold F := by
  induction node using Node.byChildren with
  | step node ih =>
    obtain ⟨name, attributes, children, text⟩ := node
    have hall : (s.resolveAll store children).Foretold F :=
      foretold_resolveAll fun c hc => ih c hc (h.child hc)
    cases he : Node.expression? ⟨name, attributes, children, text⟩ with
    | none =>
      simp only [Scope.resolve, he]
      cases hc : Node.calculation? ⟨name, attributes, children, text⟩ with
      | none => exact h.unknown .unknownExpression rfl none
      | some kind =>
        exact hall.bind fun values =>
          (s.unforeseen_calculateFrom name values kind).foretold.bind fun _ => foretold_pure _
    | some kind =>
      simp only [Scope.resolve, he]
      cases kind with
      | variableValue => exact ((s.unforeseen_variableValue _ store).map some).foretold
      | baseValue => exact ((s.unforeseen_literal _).map some).foretold
      | correct => exact (s.unforeseen_correctValue? _).foretold
      | ordered =>
        exact hall.bind fun values => (s.unforeseen_containerOf? name values .ordered).foretold
      | multiple =>
        exact hall.bind fun values => (s.unforeseen_containerOf? name values .multiple).foretold
      | customOperator =>
        exact hall.bind fun values => (h.applyCustom he values).bind fun _ => foretold_pure _
      | testVariables => exact (s.unforeseen_aggregate? _).foretold

theorem foretold_holdsAll (h : ∀ n ∈ nodes, (s.holds store n).Foretold F) :
    (s.holdsAll store nodes).Foretold F := by
  induction nodes with
  | nil =>
    simp only [holdsAll]
    exact foretold_pure _
  | cons node rest ih =>
    simp only [holdsAll]
    refine (h node (.head _)).bind fun holds => ?_
    cases holds with
    | true => exact ih fun n hn => h n (.tail _ hn)
    | false => exact foretold_pure _

theorem foretold_holdsAny (h : ∀ n ∈ nodes, (s.holds store n).Foretold F) :
    (s.holdsAny store nodes).Foretold F := by
  induction nodes with
  | nil =>
    simp only [holdsAny]
    exact foretold_pure _
  | cons node rest ih =>
    simp only [holdsAny]
    refine (h node (.head _)).bind fun holds => ?_
    cases holds with
    | true => exact foretold_pure _
    | false => exact ih fun n hn => h n (.tail _ hn)

theorem foretold_holdsNot (h : ∀ n ∈ nodes, (s.holds store n).Foretold F) (tag : String) :
    (s.holdsNot store tag nodes).Foretold F := by
  have hcount : (s.fallback (.notOneOperand tag) false).Foretold F :=
    (s.unforeseen_fallback rfl false).foretold
  cases nodes with
  | nil =>
    simp only [holdsNot]
    exact hcount
  | cons node rest =>
    cases rest with
    | nil =>
      simp only [holdsNot]
      exact (h node (.head _)).bind fun _ => foretold_pure _
    | cons _ _ =>
      simp only [holdsNot]
      exact hcount

theorem ForetellsTree.resolveAll (h : ∀ n ∈ nodes, s.ForetellsTree F n) (store : Store) :
    (s.resolveAll store nodes).Foretold F :=
  foretold_resolveAll fun n hn => (h n hn).resolve store

theorem ForetellsTree.holds (h : s.ForetellsTree F node) (store : Store) :
    (s.holds store node).Foretold F := by
  induction node using Node.byChildren with
  | step node ih =>
    obtain ⟨name, attributes, children, text⟩ := node
    have heach : ∀ c ∈ children, (s.holds store c).Foretold F := fun c hc => ih c hc (h.child hc)
    have hvalues : (s.resolveAll store children).Foretold F :=
      ForetellsTree.resolveAll (fun c hc => h.child hc) store
    cases hc : Node.comparison? ⟨name, attributes, children, text⟩ with
    | some kind =>
      simp only [Scope.holds, hc]
      exact hvalues.bind fun values =>
        (s.unforeseen_onPair name values (s.unforeseen_compareValues _ kind)).foretold
    | none =>
      cases hp : Node.predicate? ⟨name, attributes, children, text⟩ with
      | none =>
        simp only [Scope.holds, hc, hp]
        cases Node.expression? ⟨name, attributes, children, text⟩ with
        | none => exact h.unknown .unknownCondition rfl false
        | some kind =>
          exact (h.resolve store).bind fun value => (s.unforeseen_valueHolds name value).foretold
      | some kind =>
        simp only [Scope.holds, hc, hp]
        cases kind with
        | stringMatch =>
          exact hvalues.bind fun values =>
            (s.unforeseen_onPair name values (s.unforeseen_sameText _)).foretold
        | substring =>
          exact hvalues.bind fun values =>
            (s.unforeseen_onPair name values (s.unforeseen_occursIn _)).foretold
        | isNull =>
          exact hvalues.bind fun values => (s.unforeseen_isNullValue name values).foretold
        | and =>
          cases children.isEmpty with
          | true => exact (s.unforeseen_fallback rfl _).foretold
          | false => exact foretold_holdsAll heach
        | or => exact foretold_holdsAny heach
        | not => exact foretold_holdsNot heach name

theorem ForetellsTree.assignedValue? (h : ∀ n ∈ nodes, s.ForetellsTree F n) (identifier : String)
    (store : Store) : (s.assignedValue? store identifier nodes).Foretold F := by
  have hassigned : (s.resolveAll store nodes >>= s.assigned? identifier).Foretold F :=
    (ForetellsTree.resolveAll h store).bind fun values =>
      (s.unforeseen_assigned? identifier values).foretold
  cases nodes with
  | nil => exact hassigned
  | cons first rest =>
    simp only [Scope.assignedValue?, List.head?_cons, Option.bind_some]
    cases first.calculation? with
    | none => exact hassigned
    | some kind =>
      have hvalues : (s.resolveAll store first.children).Foretold F :=
        ForetellsTree.resolveAll (fun c hc => (h first (.head _)).child hc) store
      have hcalculated : (s.calculate store kind first).Foretold F :=
        hvalues.bind fun values => (s.unforeseen_calculateFrom first.name values kind).foretold
      exact hcalculated.bind fun _ => foretold_pure _

theorem ForetellsTree.setOutcome (h : s.ForetellsTree F node)
    (hs : node.statement? = some .setOutcomeValue) (store : Store) :
    (s.setOutcome node store).Foretold F := by
  unfold Scope.setOutcome
  cases hi : node.filledAttribute? "identifier" with
  | none => exact (s.unforeseen_fallback rfl _).foretold
  | some identifier =>
    obtain rfl : node.identifier = identifier := Node.identifier_of_filledAttribute? hi
    cases hd : s.outcome? node.identifier with
    | none =>
      simp only [hd]
      apply foretold_fallback
      intro flaw hflaw
      cases hflaw
      exact h.head.target hs hd
    | some declaration =>
      simp only [hd]
      refine (ForetellsTree.assignedValue? (fun c hc => h.child hc) node.identifier store).bind
        fun value => ?_
      cases value with
      | none => exact foretold_pure _
      | some value => exact foretold_pure _

theorem foretold_executeFirst (h : ∀ n ∈ nodes, ∀ store, (s.execute n store).Foretold F)
    (store : Store) : (s.executeFirst nodes store).Foretold F := by
  induction nodes generalizing store with
  | nil =>
    simp only [executeFirst]
    exact foretold_pure _
  | cons node rest ih =>
    simp only [executeFirst]
    refine (h node (.head _) store).bind fun run => ?_
    obtain ⟨matched, after⟩ := run
    cases matched with
    | true => exact foretold_pure _
    | false => exact ih (fun n hn => h n (.tail _ hn)) after

theorem foretold_executeAll (h : ∀ n ∈ nodes, ∀ store, (s.execute n store).Foretold F)
    (store : Store) : (s.executeAll nodes store).Foretold F := by
  induction nodes generalizing store with
  | nil => exact foretold_pure _
  | cons node rest ih =>
    exact (h node (.head _) store).bind fun run => ih (fun n hn => h n (.tail _ hn)) run.2

theorem foretold_executeUpTo (h : ∀ n ∈ nodes, ∀ store, (s.execute n store).Foretold F)
    (cap : Nat) (store : Store) : (s.executeUpTo cap nodes store).Foretold F := by
  rw [executeUpTo_eq_executeAll]
  exact foretold_executeAll (fun n hn => h n (List.mem_of_mem_take hn)) store

theorem ForetellsTree.execute (h : s.ForetellsTree F node) (store : Store) :
    (s.execute node store).Foretold F := by
  induction node using Node.byChildren generalizing store with
  | step node ih =>
    obtain ⟨name, attributes, children, text⟩ := node
    have heach : ∀ c ∈ children, ∀ store, (s.execute c store).Foretold F :=
      fun c hc => ih c hc (h.child hc)
    have hbody (body : List Node) (hbody : body ⊆ children) :
        (do
          s.remarkCut body
          return (true, ← s.executeUpTo s.config.maxBranchChildren body store)).Foretold F := by
      refine (s.unforeseen_remarkCut body).foretold.bind fun _ => ?_
      exact (foretold_executeUpTo (fun n hn => heach n (hbody hn)) _ store).bind
        fun _ => foretold_pure _
    have hbranch : (s.executeBranch name children store).Foretold F := by
      cases children with
      | nil =>
        simp only [executeBranch]
        exact (s.unforeseen_fallback rfl _).foretold
      | cons condition body =>
        simp only [executeBranch]
        refine ((h.child (.head _)).holds store).bind fun holds => ?_
        cases holds with
        | false => exact foretold_pure _
        | true => exact hbody body (List.subset_cons_self condition body)
    cases hs : Node.statement? ⟨name, attributes, children, text⟩ with
    | none =>
      simp only [Scope.execute, hs]
      exact h.unknown .unknownStatement rfl _
    | some kind =>
      simp only [Scope.execute, hs]
      cases kind with
      | condition => exact foretold_executeFirst heach store
      | branch => exact hbranch
      | elseBranch => exact hbranch
      | otherwise => exact hbody children (List.Subset.refl children)
      | setOutcomeValue => exact h.setOutcome hs store

theorem ForetellsTree.executeAll (h : ∀ n ∈ nodes, s.ForetellsTree F n) (store : Store) :
    (s.executeAll nodes store).Foretold F :=
  foretold_executeAll (fun n hn => (h n hn).execute) store

/-- A node with nothing foreseeable about it in a scope. -/
structure Vets (s : Scope) (node : Node) : Prop where
  knows : knowsTag node.name = true
  operator : node.expression? = some .customOperator →
    (s.registry.find? (operatorName node)).isSome = true
  target : node.statement? = some .setOutcomeValue → (s.outcome? node.identifier).isSome = true

def VetsTree (s : Scope) (node : Node) : Prop :=
  ∀ n ∈ node.preorder, s.Vets n

theorem Vets.foretells (h : s.Vets node) : s.Foretells F node where
  tag hknows := by
    rw [h.knows] at hknows
    cases hknows
  operator he hnone := by
    have hsome := h.operator he
    rw [hnone] at hsome
    cases hsome
  target hs hnone := by
    have hsome := h.target hs
    rw [hnone] at hsome
    cases hsome

end Scope

namespace Environment

variable {env : Environment}

/-- The flaws that a run meets are flaws of nodes below the root. -/
theorem foretold_process {s : Scope} {F : Flaw → Prop} {root : Option Node}
    (h : ∀ n ∈ Node.statementsUnder root, s.ForetellsTree F n) (store : Store) :
    (process s root store).Foretold F := by
  rw [Scope.process_eq_executeAll]
  exact Scope.ForetellsTree.executeAll h store

theorem unforeseen_process {s : Scope} {root : Option Node}
    (h : ∀ n ∈ Node.statementsUnder root, s.VetsTree n) (store : Store) :
    (process s root store).Unforeseen :=
  (foretold_process (fun n hn m hm => (h n hn m hm).foretells) store).unforeseen

theorem unforeseen_scoreItem {item : Item} {result : String} {r : ItemResult}
    (h : ∀ n ∈ Node.statementsUnder item.processing,
      (env.itemScope item r.responses result).VetsTree n) :
    (env.scoreItem item result r).Unforeseen :=
  (unforeseen_process h _).bind fun _ => unforeseen_pure _

theorem unforeseen_scoreTest {test : Test} {result : AssessmentResult}
    (h : ∀ n ∈ Node.statementsUnder test.processing,
      (env.testScope test result.itemResults result.identifier).VetsTree n) :
    (env.scoreTest test result).Unforeseen := by
  have hone (r : TestResult) :
      (env.scoreTestResult test result.itemResults result.identifier r).Unforeseen :=
    (unforeseen_process h _).bind fun _ => unforeseen_pure _
  unfold Logged.Unforeseen
  rw [log_scoreTest]
  exact hone _

theorem unforeseen_scoreItemIn {item : Item} {result : AssessmentResult}
    (h : ∀ responses, ∀ n ∈ Node.statementsUnder item.processing,
      (env.itemScope item responses result.identifier).VetsTree n) :
    (env.scoreItemIn item result).Unforeseen := by
  refine Logged.Unforeseen.bind ?_ fun _ => unforeseen_pure _
  generalize result.itemResults = rs
  induction rs with
  | nil => exact (unforeseen_problem rfl).bind fun _ => unforeseen_pure _
  | cons r rs ih =>
    unfold changeItemResult
    split
    · exact (unforeseen_scoreItem (h r.responses)).bind fun _ => unforeseen_pure _
    · exact ih.bind fun _ => unforeseen_pure _

theorem unforeseen_scoreItems {items : List Item} {result : AssessmentResult}
    (h : ∀ item ∈ items, ∀ responses label, ∀ n ∈ Node.statementsUnder item.processing,
      (env.itemScope item responses label).VetsTree n) :
    (env.scoreItems items result).Unforeseen := by
  induction items generalizing result with
  | nil => exact unforeseen_pure _
  | cons item items ih =>
    have hitem : (env.scoreItemIn item result).Unforeseen :=
      unforeseen_scoreItemIn fun responses => h item (.head _) responses result.identifier
    exact hitem.bind fun _ => ih fun other hother => h other (.tail _ hother)

end Environment

end Rubric
