import Mathlib.Data.List.Forall2
import Rubric.Proofs.Observation
import Rubric.Proofs.Placement
import Rubric.Proofs.Subjects

namespace Rubric

open Logged (SameTo)

variable {γ : Type} {view : Event → Option γ} {cap cap' : Nat}

theorem Node.families_of_statement? {node : Node} {kind : Statement}
    (h : node.statement? = some kind) :
    node.expression? = none ∧ node.calculation? = none ∧ node.comparison? = none ∧
      node.predicate? = none := by
  rw [expression?, calculation?, comparison?, predicate?]
  unfold statement? Statement.ofTag? at h
  split at h
  case h_10 => cases h
  all_goals
    rename_i htag
    rw [htag]
    exact ⟨rfl, rfl, rfl, rfl⟩

theorem forall₂_imp_of_mem {α β : Type} {R S : α → β → Prop} {xs : List α} {ys : List β}
    (h : List.Forall₂ R xs ys) (himp : ∀ x ∈ xs, ∀ y, R x y → S x y) : List.Forall₂ S xs ys :=
  ((List.forall₂_and_left xs ys).2 ⟨himp, h⟩).imp fun _ y hxy => hxy.1 y hxy.2

namespace Node

mutual

/-- What passes from the children of every node to the node holds of all nodes. -/
@[elab_as_elim]
theorem byChildren {P : Node → Prop} (step : ∀ node, (∀ c ∈ node.children, P c) → P node) :
    ∀ node, P node
  | ⟨_, _, children, _⟩ => step _ (byChildren_of_mem step children)

theorem byChildren_of_mem {P : Node → Prop}
    (step : ∀ node, (∀ c ∈ node.children, P c) → P node) : ∀ nodes : List Node, ∀ c ∈ nodes, P c
  | [] => fun _ hmem => nomatch hmem
  | first :: rest => List.forall_mem_cons.2 ⟨byChildren step first, byChildren_of_mem step rest⟩

end

/-- How many children of a branch the cap does not count: the condition, if the branch has one.
Other nodes have no cap. -/
def uncounted? (node : Node) : Option Nat :=
  match node.statement? with
  | some .branch | some .elseBranch => some 1
  | some .otherwise => some 0
  | _ => none

variable {node node' : Node}

theorem uncounted?_congr (htag : node'.tag = node.tag) :
    node'.uncounted? = node.uncounted? := by
  rw [uncounted?, uncounted?, statement?, statement?, htag]

/-- The statements of a branch; other nodes have none. -/
def body (node : Node) : List Node :=
  match node.uncounted? with
  | some n => node.children.drop n
  | none => []

/-- The children that a run under a cap gets to see: of a branch the condition and the first `cap`
statements, of any other node all. -/
def kept (cap : Nat) (node : Node) : List Node :=
  match node.uncounted? with
  | some n => node.children.take (cap + n)
  | none => node.children

theorem mem_children_of_mem_kept {n : Node} (h : n ∈ node.kept cap) :
    n ∈ node.children := by
  unfold kept at h
  cases hu : node.uncounted? with
  | none => simpa only [hu] using h
  | some u =>
    rw [hu] at h
    exact List.mem_of_mem_take h

theorem forall₂_kept {R : Node → Node → Prop} (htag : node'.tag = node.tag)
    (h : List.Forall₂ R node.children node'.children) :
    List.Forall₂ R (node.kept cap) (node'.kept cap) := by
  rw [kept, kept, uncounted?_congr htag]
  split
  · exact List.forall₂_take _ h
  · exact h

theorem length_body_congr (htag : node'.tag = node.tag)
    (h : node'.children.length = node.children.length) : node'.body.length = node.body.length := by
  rw [body, body, uncounted?_congr htag]
  split
  · rw [List.length_drop, List.length_drop, h]
  · rfl

theorem kept_of_length_body_le (h : node.body.length ≤ cap) :
    node.kept cap = node.children := by
  unfold kept
  cases hu : node.uncounted? with
  | none => rfl
  | some n =>
    simp only [body, hu, List.length_drop] at h
    exact List.take_of_length_le (by omega)

/-- Trees that a run under one cap and a run under another take for each other, as far as an
observer can tell. -/
inductive Alike (view : Event → Option γ) (cap cap' : Nat) : Node → Node → Prop
  | mk {node node' : Node} (head : node.SameHead view node')
      (remark : ∀ s : Scope,
        SameTo view ((s.capped cap).remarkCut node.body) ((s.capped cap').remarkCut node'.body))
      (kept : List.Forall₂ (Alike view cap cap') (node.kept cap) (node'.kept cap')) :
      Alike view cap cap' node node'

namespace Alike

theorem head (h : Alike view cap cap' node node') : node.SameHead view node' := by
  cases h
  assumption

theorem remark (h : Alike view cap cap' node node') (s : Scope) :
    SameTo view ((s.capped cap).remarkCut node.body) ((s.capped cap').remarkCut node'.body) := by
  obtain ⟨-, hremark, -⟩ := h
  exact hremark s

theorem kept (h : Alike view cap cap' node node') :
    List.Forall₂ (Alike view cap cap') (node.kept cap) (node'.kept cap') := by
  cases h
  assumption

theorem children (h : Alike view cap cap' node node') (hu : node.uncounted? = none) :
    List.Forall₂ (Alike view cap cap') node.children node'.children := by
  have hkept := h.kept
  simp only [Node.kept, uncounted?_congr h.head.tag, hu] at hkept
  exact hkept

end Alike

end Node

namespace Scope

variable {s : Scope} {store : Store}

/-- Lists of operands that resolve alike, one by one. -/
abbrev ResolveAlike (view : Event → Option γ) (cap cap' : Nat) (s : Scope) (store : Store)
    (nodes nodes' : List Node) : Prop :=
  List.Forall₂ (fun n n' => SameTo view ((s.capped cap).resolve store n)
    ((s.capped cap').resolve store n')) nodes nodes'

theorem ResolveAlike.resolveAll {nodes nodes' : List Node}
    (h : ResolveAlike view cap cap' s store nodes nodes') :
    SameTo view ((s.capped cap).resolveAll store nodes)
      ((s.capped cap').resolveAll store nodes') := by
  induction h with
  | nil =>
    simp only [Scope.resolveAll]
    exact .refl _
  | cons hnode _ ih =>
    simp only [Scope.resolveAll]
    exact hnode.bind fun _ => ih.bind fun _ => .refl _

theorem sameTo_resolve {node node' : Node} (h : Node.Alike view cap cap' node node') :
    SameTo view ((s.capped cap).resolve store node) ((s.capped cap').resolve store node') := by
  induction node using Node.byChildren generalizing node' with
  | step node ih =>
    obtain ⟨name, attributes, children, text⟩ := node
    obtain ⟨name', attributes', children', text'⟩ := node'
    have hname : Indistinct view name name' := h.head.name
    simp only [resolve, h.head.expression?, h.head.calculation?]
    -- The children of a branch correspond only as far as the caps reach, but it has no value.
    cases hs : Node.statement? ⟨name, attributes, children, text⟩ with
    | some kind =>
      obtain ⟨he, hc, -, -⟩ := Node.families_of_statement? hs
      simp only [he, hc]
      exact sameTo_fallback hname .unknownExpression (fun _ _ => rfl) none
    | none =>
      have hchildren : List.Forall₂ (Node.Alike view cap cap') children children' :=
        h.children (by rw [Node.uncounted?, hs])
      have heach : ResolveAlike view cap cap' s store children children' :=
        forall₂_imp_of_mem hchildren fun c hc _ hcc => ih c hc hcc
      have hall := heach.resolveAll
      cases he : Node.expression? ⟨name, attributes, children, text⟩ with
      | none =>
        cases hc : Node.calculation? ⟨name, attributes, children, text⟩ with
        | none => exact sameTo_fallback hname .unknownExpression (fun _ _ => rfl) none
        | some kind =>
          exact hall.bind fun values =>
            (sameTo_calculateFrom hname kind values).bind fun _ => .refl _
      | some kind =>
        cases kind with
        | variableValue => exact (sameTo_variableValue h.head store).map some
        | baseValue => exact (sameTo_literal h.head).map some
        | correct => exact sameTo_correctValue? h.head
        | ordered => exact hall.bind fun values => sameTo_containerOf? hname .ordered values
        | multiple => exact hall.bind fun values => sameTo_containerOf? hname .multiple values
        | customOperator =>
          exact hall.bind fun values => (sameTo_applyCustom h.head values).bind fun _ => .refl _
        | testVariables => exact sameTo_aggregate? h.head

theorem sameTo_resolveAll {nodes nodes' : List Node}
    (h : List.Forall₂ (Node.Alike view cap cap') nodes nodes') :
    SameTo view ((s.capped cap).resolveAll store nodes)
      ((s.capped cap').resolveAll store nodes') :=
  ResolveAlike.resolveAll (h.imp fun _ _ => sameTo_resolve)

theorem sameTo_onPair {a b : String} (hab : Indistinct view a b) {xs ys : Logged (List Value)}
    (hvalues : SameTo view xs ys) {f g : Value → Value → Logged Bool}
    (hfg : ∀ left right, SameTo view (f left right) (g left right)) :
    SameTo view
      (do
        match ← (s.capped cap).pair? a (← xs) with
        | none => return false
        | some (left, right) => f left right)
      (do
        match ← (s.capped cap').pair? b (← ys) with
        | none => return false
        | some (left, right) => g left right) := by
  refine hvalues.bind fun values => (sameTo_pair? hab values).bind fun pair => ?_
  cases pair with
  | none => exact .refl _
  | some operands => exact hfg operands.1 operands.2

abbrev HoldAlike (view : Event → Option γ) (cap cap' : Nat) (s : Scope) (store : Store)
    (nodes nodes' : List Node) : Prop :=
  List.Forall₂ (fun n n' => SameTo view ((s.capped cap).holds store n)
    ((s.capped cap').holds store n')) nodes nodes'

theorem HoldAlike.holdsAll {nodes nodes' : List Node}
    (h : HoldAlike view cap cap' s store nodes nodes') :
    SameTo view ((s.capped cap).holdsAll store nodes)
      ((s.capped cap').holdsAll store nodes') := by
  induction h with
  | nil =>
    simp only [Scope.holdsAll]
    exact .refl _
  | cons hnode _ ih =>
    simp only [Scope.holdsAll]
    refine hnode.bind fun holds => ?_
    cases holds with
    | true => exact ih
    | false => exact .refl _

theorem HoldAlike.holdsAny {nodes nodes' : List Node}
    (h : HoldAlike view cap cap' s store nodes nodes') :
    SameTo view ((s.capped cap).holdsAny store nodes)
      ((s.capped cap').holdsAny store nodes') := by
  induction h with
  | nil =>
    simp only [Scope.holdsAny]
    exact .refl _
  | cons hnode _ ih =>
    simp only [Scope.holdsAny]
    refine hnode.bind fun holds => ?_
    cases holds with
    | true => exact .refl _
    | false => exact ih

theorem HoldAlike.holdsNot {nodes nodes' : List Node}
    (h : HoldAlike view cap cap' s store nodes nodes') {a b : String} (hab : Indistinct view a b) :
    SameTo view ((s.capped cap).holdsNot store a nodes)
      ((s.capped cap').holdsNot store b nodes') := by
  have hcount : SameTo view ((s.capped cap).fallback (.notOneOperand a) false)
      ((s.capped cap').fallback (.notOneOperand b) false) :=
    sameTo_fallback hab .notOneOperand (fun _ _ => rfl) false
  cases h with
  | nil =>
    simp only [Scope.holdsNot]
    exact hcount
  | cons hnode hrest =>
    cases hrest with
    | nil =>
      simp only [Scope.holdsNot]
      exact hnode.bind fun _ => .refl _
    | cons _ _ =>
      simp only [Scope.holdsNot]
      exact hcount

theorem sameTo_holds {node node' : Node} (h : Node.Alike view cap cap' node node') :
    SameTo view ((s.capped cap).holds store node) ((s.capped cap').holds store node') := by
  induction node using Node.byChildren generalizing node' with
  | step node ih =>
    obtain ⟨name, attributes, children, text⟩ := node
    obtain ⟨name', attributes', children', text'⟩ := node'
    have hname : Indistinct view name name' := h.head.name
    cases hs : Node.statement? ⟨name, attributes, children, text⟩ with
    | some kind =>
      obtain ⟨he, -, hc, hp⟩ := Node.families_of_statement? hs
      simp only [holds, h.head.comparison?, h.head.predicate?, h.head.expression?, he, hc, hp]
      exact sameTo_fallback hname .unknownCondition (fun _ _ => rfl) false
    | none =>
      have hchildren : List.Forall₂ (Node.Alike view cap cap') children children' :=
        h.children (by rw [Node.uncounted?, hs])
      have hvalues : SameTo view ((s.capped cap).resolveAll store children)
          ((s.capped cap').resolveAll store children') := sameTo_resolveAll hchildren
      have heach : HoldAlike view cap cap' s store children children' :=
        forall₂_imp_of_mem hchildren fun c hc _ hcc => ih c hc hcc
      cases hc : Node.comparison? ⟨name, attributes, children, text⟩ with
      | some kind =>
        simp only [holds, h.head.comparison?, hc]
        exact hvalues.bind fun values => sameTo_comparisonHolds h.head kind values
      | none =>
        cases hp : Node.predicate? ⟨name, attributes, children, text⟩ with
        | none =>
          simp only [holds, h.head.comparison?, h.head.predicate?, h.head.expression?, hc, hp]
          cases Node.expression? ⟨name, attributes, children, text⟩ with
          | none => exact sameTo_fallback hname .unknownCondition (fun _ _ => rfl) false
          | some kind =>
            exact (sameTo_resolve h).bind fun value => sameTo_valueHolds hname value
        | some kind =>
          simp only [holds, h.head.comparison?, h.head.predicate?, hc, hp]
          cases kind with
          | stringMatch => exact sameTo_onPair hname hvalues (sameTo_sameText h.head)
          | substring => exact sameTo_onPair hname hvalues (sameTo_occursIn h.head)
          | isNull => exact hvalues.bind fun values => sameTo_isNullValue hname values
          | and =>
            have hempty : children'.isEmpty = children.isEmpty := by
              cases hchildren <;> rfl
            simp only [hempty]
            cases children.isEmpty with
            | true => exact sameTo_fallback hname .operandsMissing (fun _ _ => rfl) false
            | false => exact heach.holdsAll
          | or => exact heach.holdsAny
          | not => exact heach.holdsNot hname

theorem sameTo_assignedValue? (identifier : String) {operands operands' : List Node}
    (h : List.Forall₂ (Node.Alike view cap cap') operands operands') :
    SameTo view ((s.capped cap).assignedValue? store identifier operands)
      ((s.capped cap').assignedValue? store identifier operands') := by
  have hassigned : SameTo view
      ((s.capped cap).resolveAll store operands >>= (s.capped cap).assigned? identifier)
      ((s.capped cap').resolveAll store operands' >>= (s.capped cap').assigned? identifier) :=
    (sameTo_resolveAll h).bind fun _ => .refl _
  cases h with
  | nil => exact hassigned
  | @cons first first' rest rest' hfirst hrest =>
    simp only [assignedValue?, List.head?_cons, Option.bind_some, hfirst.head.calculation?]
    cases hc : first.calculation? with
    | none => exact hassigned
    | some kind =>
      have hs : first.statement? = none := by
        cases hs : first.statement? with
        | none => rfl
        | some kind =>
          obtain ⟨-, hnone, -, -⟩ := Node.families_of_statement? hs
          rw [hnone] at hc
          cases hc
      have hvalues : SameTo view ((s.capped cap).resolveAll store first.children)
          ((s.capped cap').resolveAll store first'.children) :=
        sameTo_resolveAll (hfirst.children (by rw [Node.uncounted?, hs]))
      exact (hvalues.bind fun values => sameTo_calculateFrom hfirst.head.name kind values).bind
        fun _ => .refl _

theorem sameTo_setOutcome {node node' : Node} (h : Node.Alike view cap cap' node node')
    (hs : node.statement? = some .setOutcomeValue) :
    SameTo view ((s.capped cap).setOutcome node store) ((s.capped cap').setOutcome node' store) := by
  have hchildren := h.children (by rw [Node.uncounted?, hs])
  have houtcome (cap : Nat) (x : String) : (s.capped cap).outcome? x = s.outcome? x := rfl
  simp only [setOutcome, h.head.filledAttribute?, houtcome]
  cases node.filledAttribute? "identifier" with
  | none => exact .refl _
  | some identifier =>
    cases hd : s.outcome? identifier with
    | none =>
      simp only [hd]
      exact .refl _
    | some d =>
      simp only [hd]
      refine (sameTo_assignedValue? identifier hchildren).bind fun value => ?_
      cases value with
      | none => exact .refl _
      | some v => exact .refl _

abbrev ExecuteAlike (view : Event → Option γ) (cap cap' : Nat) (s : Scope)
    (nodes nodes' : List Node) : Prop :=
  List.Forall₂ (fun n n' => ∀ store, SameTo view ((s.capped cap).execute n store)
    ((s.capped cap').execute n' store)) nodes nodes'

theorem ExecuteAlike.executeFirst {nodes nodes' : List Node}
    (h : ExecuteAlike view cap cap' s nodes nodes') (store : Store) :
    SameTo view ((s.capped cap).executeFirst nodes store)
      ((s.capped cap').executeFirst nodes' store) := by
  induction h generalizing store with
  | nil =>
    simp only [Scope.executeFirst]
    exact .refl _
  | cons hnode _ ih =>
    simp only [Scope.executeFirst]
    refine (hnode store).bind fun run => ?_
    obtain ⟨matched, after⟩ := run
    cases matched with
    | true => exact .refl _
    | false => exact ih after

theorem ExecuteAlike.executeAll {nodes nodes' : List Node}
    (h : ExecuteAlike view cap cap' s nodes nodes') (store : Store) :
    SameTo view ((s.capped cap).executeAll nodes store)
      ((s.capped cap').executeAll nodes' store) := by
  induction h generalizing store with
  | nil => exact .refl _
  | cons hnode _ ih => exact (hnode store).bind fun run => ih run.2

theorem executeUpTo_eq_executeAll (n : Nat) (nodes : List Node) (store : Store) :
    s.executeUpTo n nodes store = s.executeAll (nodes.take n) store := by
  induction nodes generalizing n store with
  | nil => simp only [executeUpTo, List.take_nil, executeAll]
  | cons node rest ih =>
    cases n with
    | zero => simp only [executeUpTo, List.take_zero, executeAll]
    | succ n => simp only [executeUpTo, List.take_succ_cons, executeAll, ih]

theorem ExecuteAlike.executeUpTo {nodes nodes' : List Node} {n n' : Nat}
    (h : ExecuteAlike view cap cap' s (nodes.take n) (nodes'.take n')) (store : Store) :
    SameTo view ((s.capped cap).executeUpTo n nodes store)
      ((s.capped cap').executeUpTo n' nodes' store) := by
  rw [executeUpTo_eq_executeAll, executeUpTo_eq_executeAll]
  exact h.executeAll store

theorem sameTo_executeBranch {a b : String} (hab : Indistinct view a b) {nodes nodes' : List Node}
    (hremark : SameTo view ((s.capped cap).remarkCut (nodes.drop 1))
      ((s.capped cap').remarkCut (nodes'.drop 1)))
    (hkept : List.Forall₂ (Node.Alike view cap cap') (nodes.take (cap + 1))
      (nodes'.take (cap' + 1)))
    (heach : ExecuteAlike view cap cap' s (nodes.take (cap + 1)) (nodes'.take (cap' + 1)))
    (store : Store) :
    SameTo view ((s.capped cap).executeBranch a nodes store)
      ((s.capped cap').executeBranch b nodes' store) := by
  cases nodes with
  | nil =>
    cases nodes' with
    | cons _ _ => cases hkept
    | nil => exact sameTo_fallback hab .branchWithoutCondition (fun _ _ => rfl) (false, store)
  | cons condition body =>
    cases nodes' with
    | nil => cases hkept
    | cons condition' body' =>
      obtain ⟨hcondition, -⟩ := List.forall₂_cons.1 hkept
      have hbody : ExecuteAlike view cap cap' s (body.take cap) (body'.take cap') :=
        (List.forall₂_cons.1 heach).2
      simp only [executeBranch]
      refine (sameTo_holds hcondition).bind fun holds => ?_
      cases holds with
      | false => exact .refl _
      | true => exact hremark.bind fun _ => (hbody.executeUpTo store).bind fun _ => .refl _

theorem sameTo_execute {node node' : Node} (h : Node.Alike view cap cap' node node')
    (store : Store) :
    SameTo view ((s.capped cap).execute node store) ((s.capped cap').execute node' store) := by
  induction node using Node.byChildren generalizing node' store with
  | step node ih =>
    obtain ⟨name, attributes, children, text⟩ := node
    obtain ⟨name', attributes', children', text'⟩ := node'
    have hname : Indistinct view name name' := h.head.name
    have hkept := h.kept
    have hremark := h.remark s
    have heach : ExecuteAlike view cap cap' s (Node.kept cap ⟨name, attributes, children, text⟩)
        (Node.kept cap' ⟨name', attributes', children', text'⟩) :=
      forall₂_imp_of_mem hkept fun c hc _ hcc store =>
        ih c (Node.mem_children_of_mem_kept hc) hcc store
    simp only [Node.kept, Node.body, Node.uncounted?, h.head.statement?] at hkept hremark heach
    simp only [execute, h.head.statement?]
    cases hs : Node.statement? ⟨name, attributes, children, text⟩ with
    | none => exact sameTo_fallback hname .unknownStatement (fun _ _ => rfl) (false, store)
    | some kind =>
      simp only [hs] at hkept hremark heach
      cases kind with
      | condition => exact heach.executeFirst store
      | branch => exact sameTo_executeBranch hname hremark hkept heach store
      | elseBranch => exact sameTo_executeBranch hname hremark hkept heach store
      | otherwise => exact hremark.bind fun _ => (heach.executeUpTo store).bind fun _ => .refl _
      | setOutcomeValue => exact sameTo_setOutcome h hs

theorem sameTo_executeAll {nodes nodes' : List Node}
    (h : List.Forall₂ (Node.Alike view cap cap') nodes nodes') (store : Store) :
    SameTo view ((s.capped cap).executeAll nodes store)
      ((s.capped cap').executeAll nodes' store) :=
  ExecuteAlike.executeAll (h.imp fun _ _ => sameTo_execute) store

end Scope

namespace Environment

def capped (env : Environment) (cap : Nat) : Environment :=
  { env with config := env.config.capped cap }

variable (env : Environment) {root root' : Node}

theorem sameTo_scoreItem
    (h : List.Forall₂ (Node.Alike view cap cap') root.children root'.children) (item : Item)
    (result : String) (r : ItemResult) :
    SameTo view ((env.capped cap).scoreItem { item with processing := some root } result r)
      ((env.capped cap').scoreItem { item with processing := some root' } result r) := by
  let s := env.itemScope { item with processing := some root } r.responses result
  let start := r.outcomes.ensureAll item.outcomes
  have hrules : SameTo view ((s.capped cap).executeAll root.children start)
      ((s.capped cap').executeAll root'.children start) := Scope.sameTo_executeAll h start
  let s' := env.itemScope { item with processing := some root' } r.responses result
  have hanswers : (s.capped cap').SameAnswers (s'.capped cap') Set.univ Set.univ :=
    Scope.sameAnswers_of_item ⟨rfl, rfl, rfl⟩ rfl rfl rfl rfl (Set.eqOn_refl _ _)
  rw [← hanswers.executeAll_eq_univ] at hrules
  exact hrules.bind fun _ => .refl _

theorem sameTo_changeTestResult {identifier : String} {f g : TestResult → Logged TestResult}
    {rs : List TestResult}
    (h : SameTo view (f (startingResult identifier rs)) (g (startingResult identifier rs))) :
    SameTo view (changeTestResult identifier f rs) (changeTestResult identifier g rs) := by
  obtain ⟨before, after, -, -, hchange⟩ := exists_place identifier rs
  rw [hchange, hchange]
  exact h.map _

theorem sameTo_scoreTest
    (h : List.Forall₂ (Node.Alike view cap cap') root.children root'.children) (test : Test)
    (result : AssessmentResult) :
    SameTo view ((env.capped cap).scoreTest { test with processing := some root } result)
      ((env.capped cap').scoreTest { test with processing := some root' } result) := by
  let s := env.testScope { test with processing := some root } result.itemResults result.identifier
  let start := startingResult test.identifier result.testResults
  have hrules : SameTo view
      ((s.capped cap).executeAll root.children (start.outcomes.ensureAll test.outcomes))
      ((s.capped cap').executeAll root'.children (start.outcomes.ensureAll test.outcomes)) :=
    Scope.sameTo_executeAll h _
  let s' := env.testScope { test with processing := some root' } result.itemResults result.identifier
  have hanswers : (s.capped cap').SameAnswers (s'.capped cap') Set.univ Set.univ :=
    Scope.sameAnswers_of_itemRefs ⟨rfl, rfl, rfl⟩ rfl rfl rfl rfl (Set.eqOn_refl _ _)
  rw [← hanswers.executeAll_eq_univ] at hrules
  have hscored := hrules.bind fun store => .refl (pure { start with outcomes := store })
  exact (sameTo_changeTestResult hscored).bind fun _ => .refl _

end Environment

end Rubric
