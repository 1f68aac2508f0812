import Mathlib.Data.Set.Basic
import Rubric.Vocabulary

namespace Rubric.Node

/-- The identifiers of the variables that a tree reads. -/
def reads (node : Node) : List String :=
  (node.preorder.filter fun n => n.expression? = some .variableValue).map identifier

/-- The identifiers of the outcomes that a tree assigns. A blank one is none. -/
def targets (node : Node) : List String :=
  (node.preorder.filter fun n => n.statement? = some .setOutcomeValue).filterMap
    fun n => n.filledAttribute? "identifier"

/-- The statements under the root of a processing tree, if there is one. -/
def statementsUnder (root : Option Node) : List Node :=
  root.elim [] children

def targetsBelow (root : Option Node) : List String :=
  (statementsUnder root).flatMap targets

variable {node : Node} {x : String}

theorem descendants_eq_preorder (node : Node) : node.descendants = node.preorder := by
  rw [descendants, drain_eq_preorderAll, preorderAll, preorderAll, List.append_nil]

theorem mem_preorderAll {n : Node} {nodes : List Node} :
    n ∈ preorderAll nodes ↔ ∃ m ∈ nodes, n ∈ m.preorder := by
  induction nodes with
  | nil => simp [preorderAll]
  | cons m ms ih => simp [preorderAll, ih]

theorem mem_preorder {n : Node} :
    n ∈ node.preorder ↔ n = node ∨ ∃ c ∈ node.children, n ∈ c.preorder := by
  rw [preorder_eq, List.mem_cons, mem_preorderAll]

theorem mem_reads :
    x ∈ node.reads ↔
      ∃ n ∈ node.preorder, n.expression? = some .variableValue ∧ n.identifier = x := by
  simp [reads, and_assoc]

theorem mem_targets :
    x ∈ node.targets ↔
      ∃ n ∈ node.preorder, n.statement? = some .setOutcomeValue ∧
        n.filledAttribute? "identifier" = some x := by
  simp [targets, and_assoc]

theorem identifier_of_filledAttribute? (h : node.filledAttribute? "identifier" = some x) :
    node.identifier = x := by
  obtain ⟨hattribute, -⟩ := Option.filter_eq_some_iff.1 h
  rw [identifier, hattribute, Option.getD_some]

/-- A tree that reads variables of `A` and assigns outcomes of `W` only. -/
structure Within (A W : Set String) (node : Node) : Prop where
  reads : ∀ x ∈ node.reads, x ∈ A
  targets : ∀ x ∈ node.targets, x ∈ W

variable {A W : Set String}

theorem Within.child (h : node.Within A W) {c : Node} (hc : c ∈ node.children) :
    c.Within A W where
  reads := by
    intro x hx
    obtain ⟨n, hn, hread⟩ := mem_reads.1 hx
    exact h.reads x (mem_reads.2 ⟨n, mem_preorder.2 (.inr ⟨c, hc, hn⟩), hread⟩)
  targets := by
    intro x hx
    obtain ⟨n, hn, htarget⟩ := mem_targets.1 hx
    exact h.targets x (mem_targets.2 ⟨n, mem_preorder.2 (.inr ⟨c, hc, hn⟩), htarget⟩)

theorem Within.identifier_mem_of_variable (h : node.Within A W)
    (hnode : node.expression? = some .variableValue) : node.identifier ∈ A :=
  h.reads _ (mem_reads.2 ⟨node, mem_preorder.2 (.inl rfl), hnode, rfl⟩)

theorem Within.identifier_mem_of_target (h : node.Within A W)
    (hnode : node.statement? = some .setOutcomeValue)
    (hx : node.filledAttribute? "identifier" = some x) : x ∈ W :=
  h.targets x (mem_targets.2 ⟨node, mem_preorder.2 (.inl rfl), hnode, hx⟩)

theorem within_univ (node : Node) : node.Within Set.univ Set.univ where
  reads _ _ := trivial
  targets _ _ := trivial

theorem Within.toUniv (h : node.Within A W) : node.Within Set.univ W where
  reads _ _ := trivial
  targets := h.targets

theorem within_targetsBelow (root : Option Node) :
    ∀ n ∈ statementsUnder root, n.Within Set.univ {x | x ∈ targetsBelow root} := by
  intro n hn
  refine ⟨fun x _ => trivial, fun x hx => ?_⟩
  exact List.mem_flatMap.2 ⟨n, hn, hx⟩

theorem Within.statementsUnder {root : Option Node} (h : ∀ node ∈ root, node.Within A W) :
    ∀ n ∈ statementsUnder root, n.Within A W := by
  intro n hn
  cases root with
  | none => cases hn
  | some node => exact (h node rfl).child hn

def assigning (identifier : String) (operand : Node) : Node where
  name := "setOutcomeValue"
  attributes := .ofList [("identifier", identifier)]
  children := [operand]

def constant (baseType text : String) : Node where
  name := "baseValue"
  attributes := .ofList [("baseType", baseType)]
  text := some text

def reading (identifier : String) : Node where
  name := "variable"
  attributes := .ofList [("identifier", identifier)]

end Rubric.Node
