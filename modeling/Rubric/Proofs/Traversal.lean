import Rubric.Proofs.Totals.Preparation
import Rubric.Proofs.Validation

namespace Rubric

namespace Node

/-- One step of the iterator: takes the top node off the stack and puts its children there, the
first one on top. The top of the stack is the end of the list. -/
def next? (stack : List Node) : Option (Node × List Node) :=
  stack.getLast?.map fun node => (node, stack.dropLast ++ node.children.reverse)

/-- What an iterator hands out from a stack until it stops. -/
inductive Yields : List Node → List Node → Prop
  | done {stack : List Node} (h : next? stack = none) : Yields stack []
  | step {stack rest nodes : List Node} {node : Node} (h : next? stack = some (node, rest))
      (hrest : Yields rest nodes) : Yields stack (node :: nodes)

variable {node n : Node} {stack rest nodes : List Node} {p : List Nat}

theorem next?_eq_none_iff : next? stack = none ↔ stack = [] := by
  rw [next?, Option.map_eq_none_iff, List.getLast?_eq_none_iff]

theorem next?_eq_some_iff :
    next? stack = some (node, rest) ↔
      ∃ below, stack = below ++ [node] ∧ rest = below ++ node.children.reverse := by
  constructor
  · intro h
    obtain ⟨top, htop, hpair⟩ := Option.map_eq_some_iff.1 h
    obtain ⟨below, rfl⟩ := List.getLast?_eq_some_iff.1 htop
    cases hpair
    rw [List.dropLast_concat]
    exact ⟨below, rfl, rfl⟩
  · rintro ⟨below, rfl, rfl⟩
    rw [next?, List.getLast?_concat, List.dropLast_concat]
    rfl

/-- With the list turned round, a step puts the children in front of what is left. -/
theorem Yields.eq_drain (h : Yields stack nodes) : nodes = drain stack.reverse := by
  induction h with
  | done hnext =>
    rw [next?_eq_none_iff.1 hnext, List.reverse_nil, drain]
  | step hnext _ ih =>
    obtain ⟨below, rfl, rfl⟩ := next?_eq_some_iff.1 hnext
    rw [ih, List.reverse_append, List.reverse_append, List.reverse_reverse, List.reverse_singleton,
      List.singleton_append, drain]

/-- The iterator stops. Every step takes one node off the trees on the stack. -/
theorem yields_drain (stack : List Node) : Yields stack.reverse (drain stack) := by
  fun_induction drain stack with
  | case1 => exact .done rfl
  | case2 node stack ih =>
    rw [List.reverse_append] at ih
    exact .step (next?_eq_some_iff.2 ⟨stack.reverse, List.reverse_cons, rfl⟩) ih

theorem yields_iff : Yields [node] nodes ↔ nodes = node.descendants := by
  constructor
  · exact Yields.eq_drain
  · rintro rfl
    exact yields_drain [node]

theorem preorderAll_eq_flatMap (nodes : List Node) :
    preorderAll nodes = nodes.flatMap preorder := by
  induction nodes with
  | nil => rfl
  | cons node rest ih => rw [preorderAll, List.flatMap_cons, ih]

theorem descendants_eq_cons (node : Node) :
    node.descendants = node :: node.children.flatMap preorder := by
  rw [descendants_eq_preorder, preorder_eq, preorderAll_eq_flatMap]

/-- The node at a position of a tree: the way down to it, a child's index at every step. -/
def subtreeAt? : Node → List Nat → Option Node
  | node, [] => some node
  | node, i :: p => node.children[i]?.bind fun c => c.subtreeAt? p

mutual

/-- The nodes of a tree with their positions. -/
def located : Node → List (List Nat × Node)
  | node@⟨_, _, children, _⟩ => ([], node) :: locatedFrom 0 children

def locatedFrom (i : Nat) : List Node → List (List Nat × Node)
  | [] => []
  | c :: rest => c.located.map (Prod.map (i :: ·) id) ++ locatedFrom (i + 1) rest

end

theorem located_eq (node : Node) : node.located = ([], node) :: locatedFrom 0 node.children := by
  cases node
  rw [located]

theorem subtreeAt?_cons_eq_some_iff {i : Nat} :
    node.subtreeAt? (i :: p) = some n ↔
      ∃ c, node.children[i]? = some c ∧ c.subtreeAt? p = some n := by
  rw [subtreeAt?, Option.bind_eq_some_iff]

theorem map_snd_locatedFrom (h : ∀ c ∈ nodes, c.located.map Prod.snd = c.preorder) (i : Nat) :
    (locatedFrom i nodes).map Prod.snd = preorderAll nodes := by
  induction nodes generalizing i with
  | nil => rfl
  | cons c rest ih =>
    have hfirst : (c.located.map (Prod.map (i :: ·) id)).map Prod.snd = c.preorder := by
      rw [List.map_map]
      exact h c (.head _)
    rw [locatedFrom, List.map_append, hfirst, preorderAll, ih fun d hd => h d (.tail _ hd)]

theorem map_snd_located (node : Node) : node.located.map Prod.snd = node.preorder := by
  induction node using byChildren with
  | step node ih => rw [located_eq, List.map_cons, map_snd_locatedFrom ih, preorder_eq]

theorem mem_locatedFrom {i : Nat} :
    (p, n) ∈ locatedFrom i nodes ↔
      ∃ k q c, p = (i + k) :: q ∧ nodes[k]? = some c ∧ (q, n) ∈ c.located := by
  induction nodes generalizing i with
  | nil => simp [locatedFrom]
  | cons first rest ih =>
    have hfirst : (p, n) ∈ first.located.map (Prod.map (i :: ·) id) ↔
        ∃ q, p = i :: q ∧ (q, n) ∈ first.located := by
      simp only [List.mem_map, Prod.exists, Prod.map_apply, id_eq, Prod.mk.injEq]
      constructor
      · rintro ⟨q, m, hm, rfl, rfl⟩
        exact ⟨q, rfl, hm⟩
      · rintro ⟨q, rfl, hq⟩
        exact ⟨q, n, hq, rfl, rfl⟩
    rw [locatedFrom, List.mem_append, hfirst, ih]
    constructor
    · rintro (⟨q, rfl, hq⟩ | ⟨k, q, c, rfl, hc, hq⟩)
      · exact ⟨0, q, first, rfl, rfl, hq⟩
      · exact ⟨k + 1, q, c, by rw [Nat.add_assoc, Nat.add_comm 1 k], hc, hq⟩
    · rintro ⟨k, q, c, rfl, hc, hq⟩
      cases k with
      | zero =>
        cases hc
        exact .inl ⟨q, rfl, hq⟩
      | succ k => exact .inr ⟨k, q, c, by rw [Nat.add_assoc, Nat.add_comm 1 k], hc, hq⟩

theorem mem_located : (p, n) ∈ node.located ↔ node.subtreeAt? p = some n := by
  induction node using byChildren generalizing p with
  | step node ih =>
    rw [located_eq, List.mem_cons, mem_locatedFrom]
    cases p with
    | nil => simp [subtreeAt?, eq_comm]
    | cons j q =>
      have hchild (c : Node) (hc : node.children[j]? = some c) :
          (q, n) ∈ c.located ↔ c.subtreeAt? q = some n := ih c (List.mem_of_getElem? hc)
      rw [subtreeAt?_cons_eq_some_iff]
      constructor
      · rintro (hroot | ⟨k, q', c, hp, hc, hq⟩)
        · cases hroot
        · rw [Nat.zero_add] at hp
          cases hp
          exact ⟨c, hc, (hchild c hc).1 hq⟩
      · rintro ⟨c, hc, hq⟩
        exact .inr ⟨j, q, c, by rw [Nat.zero_add], hc, (hchild c hc).2 hq⟩

/-- A list of nodes with the positions where they stand in a tree, in the order of the positions: a
node before the nodes below it, and these before the nodes to the right. -/
structure Enumerates (root : Node) (nodes : List (List Nat × Node)) : Prop where
  ordered : nodes.Pairwise fun a b => a.1 < b.1
  complete : ∀ p n, (p, n) ∈ nodes ↔ root.subtreeAt? p = some n

theorem pairwise_locatedFrom (h : ∀ c ∈ nodes, c.located.Pairwise fun a b => a.1 < b.1) (i : Nat) :
    (locatedFrom i nodes).Pairwise fun a b => a.1 < b.1 := by
  induction nodes generalizing i with
  | nil => exact .nil
  | cons c rest ih =>
    rw [locatedFrom, List.pairwise_append, List.pairwise_map]
    refine ⟨?_, ih (fun d hd => h d (.tail _ hd)) (i + 1), ?_⟩
    · exact (h c (.head _)).imp fun hlt => List.cons_lt_cons_iff.2 (.inr ⟨rfl, hlt⟩)
    · rintro a ha ⟨p, n⟩ hb
      obtain ⟨a, -, rfl⟩ := List.mem_map.1 ha
      obtain ⟨k, q, -, rfl, -, -⟩ := mem_locatedFrom.1 hb
      exact List.cons_lt_cons_iff.2 (.inl (by omega))

theorem enumerates_located (node : Node) : node.Enumerates node.located where
  ordered := by
    induction node using byChildren with
    | step node ih =>
      rw [located_eq]
      refine .cons ?_ (pairwise_locatedFrom ih 0)
      rintro ⟨p, n⟩ hp
      obtain ⟨k, q, -, rfl, -, -⟩ := mem_locatedFrom.1 hp
      exact List.nil_lt_cons _ _
  complete _ _ := mem_located

theorem mem_descendants_iff : n ∈ node.descendants ↔ ∃ p, node.subtreeAt? p = some n := by
  rw [descendants_eq_preorder, ← map_snd_located, List.mem_map]
  simp only [Prod.exists, mem_located, exists_eq_right]

theorem mem_flatMap_descendants_iff :
    n ∈ node.children.flatMap descendants ↔ ∃ i p, node.subtreeAt? (i :: p) = some n := by
  simp only [List.mem_flatMap, mem_descendants_iff, subtreeAt?_cons_eq_some_iff]
  constructor
  · rintro ⟨c, hc, p, hp⟩
    obtain ⟨i, hi⟩ := List.mem_iff_getElem?.1 hc
    exact ⟨i, p, c, hi, hp⟩
  · rintro ⟨i, p, c, hi, hp⟩
    exact ⟨c, List.mem_of_getElem? hi, p, hp⟩

end Node

theorem Test.mem_authoredTargets_iff_position {test : Test} {root : Node} {x : String}
    (h : test.processing = some root) :
    x ∈ test.authoredTargets ↔
      ∃ p n, root.subtreeAt? p = some n ∧ n.statement? = some .setOutcomeValue ∧
        n.identifier = x := by
  have hroot : test.processingRoot = root := by rw [processingRoot, h, Option.getD_some]
  rw [mem_authoredTargets_iff, hroot, ← Node.descendants_eq_preorder]
  simp only [Node.mem_descendants_iff]
  constructor
  · rintro ⟨n, ⟨p, hp⟩, htarget⟩
    exact ⟨p, n, hp, htarget⟩
  · rintro ⟨p, n, hp, htarget⟩
    exact ⟨n, ⟨p, hp⟩, htarget⟩

namespace Package

variable {registry : Registry} {ds : List OutcomeDeclaration} {node root : Node} {flaw : Flaw}

theorem mem_treeFlaws :
    flaw ∈ treeFlaws registry ds root ↔
      ∃ i p n, root.subtreeAt? (i :: p) = some n ∧ nodeFlaw? registry ds n = some flaw := by
  simp only [treeFlaws, List.mem_filterMap, Node.mem_flatMap_descendants_iff]
  constructor
  · rintro ⟨n, ⟨i, p, hn⟩, hflaw⟩
    exact ⟨i, p, n, hn, hflaw⟩
  · rintro ⟨i, p, n, hn, hflaw⟩
    exact ⟨n, ⟨i, p, hn⟩, hflaw⟩

theorem nodeFlaw?_of_knowsTag_eq_false (h : knowsTag node.name = false) :
    nodeFlaw? registry ds node = some (.tagUnsupported node.name) := by
  rw [← Bool.not_eq_true, Node.knowsTag_iff, not_forall] at h
  obtain ⟨tag, hrole⟩ := h
  rw [not_not] at hrole
  simp only [nodeFlaw?, hrole, Node.eq_name_of_role_eq_unknown hrole]

theorem nodeFlaw?_of_find?_eq_none (h : node.expression? = some .customOperator)
    (hnone : registry.find? (Scope.operatorName node) = none) :
    nodeFlaw? registry ds node = some (.operatorUnregistered (Scope.operatorName node)) := by
  simp only [nodeFlaw?, Node.role_eq_expression_iff.2 h, hnone, Option.isNone_none, if_pos]

theorem nodeFlaw?_of_undeclared (h : node.statement? = some .setOutcomeValue)
    (hnone : OutcomeDeclaration.find? ds node.identifier = none) :
    nodeFlaw? registry ds node = some (.targetUndeclared node.identifier) := by
  have hany : (ds.any fun d => d.identifier == node.identifier) = false := by
    rw [← List.isSome_find?]
    exact Option.isSome_eq_false_iff.2 (Option.isNone_iff_eq_none.2 hnone)
  simp only [nodeFlaw?, Node.role_eq_statement_iff.2 h, hany, Bool.false_eq_true, if_false]

end Package

namespace Scope

variable {s : Scope} {root : Node}

/-- The declarations of the outcomes that the rules of a scope may assign. -/
def declarations (s : Scope) : List OutcomeDeclaration :=
  match s.subject with
  | .item item _ => item.outcomes
  | .test test _ => test.outcomes

theorem outcome?_eq_find? (s : Scope) (identifier : String) :
    s.outcome? identifier = OutcomeDeclaration.find? s.declarations identifier := by
  rw [outcome?, declarations]
  cases s.subject <;> rfl

theorem foretellsTree_treeFlaws {c : Node} (hc : c ∈ root.children) :
    s.ForetellsTree (· ∈ Package.treeFlaws s.registry s.declarations root) c := by
  intro n hn
  have hfound {flaw : Flaw} (hflaw : Package.nodeFlaw? s.registry s.declarations n = some flaw) :
      flaw ∈ Package.treeFlaws s.registry s.declarations root := by
    rw [← Node.descendants_eq_preorder] at hn
    exact List.mem_filterMap.2 ⟨n, List.mem_flatMap.2 ⟨c, hc, hn⟩, hflaw⟩
  refine ⟨fun htag => ?_, fun hoperator hnone => ?_, fun htarget hnone => ?_⟩
  · exact hfound (Package.nodeFlaw?_of_knowsTag_eq_false htag)
  · exact hfound (Package.nodeFlaw?_of_find?_eq_none hoperator hnone)
  · rw [outcome?_eq_find?] at hnone
    exact hfound (Package.nodeFlaw?_of_undeclared htarget hnone)

end Scope

namespace Environment

variable {s : Scope} {root : Node}

theorem foretold_process_treeFlaws (s : Scope) (root : Node) (store : Store) :
    (process s (some root) store).Foretold
      (· ∈ Package.treeFlaws s.registry s.declarations root) :=
  foretold_process (fun _ hc => Scope.foretellsTree_treeFlaws hc) store

/-- All that a run of the rules of a test writes goes to targets that the search has found. -/
theorem exists_writes_of_authoredTargets (s : Scope) {test : Test}
    (h : test.processing = some root) (store : Store) :
    ∃ ws, (process s (some root) store).value = store.writeAll ws ∧
      ∀ w ∈ ws, w.target ∈ test.authoredTargets := by
  have hroot : root.Within Set.univ {x | x ∈ test.authoredTargets} :=
    ⟨fun _ _ => trivial, fun x hx => Test.mem_authoredTargets h hx⟩
  obtain ⟨ws, log, hws, hrun⟩ := s.exists_writes (fun _ hc => hroot.child hc) store
  refine ⟨ws, congrArg Logged.value hrun, fun w hw => (hws w hw).1⟩

/-- The iterator lists the nodes of a tree in document order, and its users visit all that a run can
get to: whatever a run assigns is among the targets found, and whatever could be said against a rule
before the run was among the flaws found. -/
theorem traversal_in_document_order (root : Node) :
    (∀ nodes, Node.Yields [root] nodes ↔ nodes = root.descendants) ∧
    root.descendants = root :: root.children.flatMap Node.preorder ∧
    (∃ located, root.Enumerates located ∧ root.descendants = located.map Prod.snd) ∧
    (∀ (test : Test) (x : String), test.processing = some root →
      (x ∈ test.authoredTargets ↔
        ∃ p n, root.subtreeAt? p = some n ∧ n.statement? = some .setOutcomeValue ∧
          n.identifier = x)) ∧
    (∀ registry ds flaw, flaw ∈ Package.treeFlaws registry ds root ↔
      ∃ i p n, root.subtreeAt? (i :: p) = some n ∧
        Package.nodeFlaw? registry ds n = some flaw) ∧
    ∀ (s : Scope) (store : Store),
      let run := process s (some root) store
      (∀ test : Test, test.processing = some root →
        ∃ ws, run.value = store.writeAll ws ∧ ∀ w ∈ ws, w.target ∈ test.authoredTargets) ∧
      ∀ label problem, .problem label problem ∈ run.log →
        ∀ flaw ∈ problem.flaw?, flaw ∈ Package.treeFlaws s.registry s.declarations root := by
  refine ⟨fun nodes => Node.yields_iff, root.descendants_eq_cons, ?_, ?_, ?_, ?_⟩
  · refine ⟨root.located, root.enumerates_located, ?_⟩
    rw [Node.descendants_eq_preorder, Node.map_snd_located]
  · intro test x hroot
    exact Test.mem_authoredTargets_iff_position hroot
  · intro registry ds flaw
    exact Package.mem_treeFlaws
  · intro s store run
    refine ⟨fun test hroot => exists_writes_of_authoredTargets s hroot store, ?_⟩
    exact foretold_process_treeFlaws s root store

/-- Rules with the same assignment twice, at two depths, and a rule of no kind in a branch. -/
def repeatedRules : Node where
  name := "qti-outcome-processing"
  children := [
    { name := "qti-outcome-condition"
      children := [{
        name := "qti-outcome-if"
        children := [.constant "boolean" "true", .assigning "SCORE" (.constant "float" "2"),
          { name := "mystery" }] }] },
    .assigning "SCORE" (.constant "float" "2")]

theorem repeatedRules_traversed :
    let test : Test :=
      { identifier := "TST", outcomes := [.number "SCORE"], processing := some repeatedRules }
    let run := process (standard.testScope test [] "R1") (some repeatedRules) []
    Node.Yields [repeatedRules] repeatedRules.descendants ∧
    repeatedRules.descendants.map Node.name =
      ["qti-outcome-processing", "qti-outcome-condition", "qti-outcome-if", "baseValue",
        "setOutcomeValue", "baseValue", "mystery", "setOutcomeValue", "baseValue"] ∧
    (∃ ws : List Write, run.value = Store.writeAll [] ws ∧ run.value ≠ [] ∧
      ∀ w ∈ ws, w.target ∈ test.authoredTargets) ∧
    "SCORE" ∈ test.authoredTargets ∧
    .problem "TST - R1" (.unknownStatement "mystery") ∈ run.log ∧
    .tagUnsupported "mystery" ∈ Package.treeFlaws standard.registry test.outcomes repeatedRules := by
  intro test run
  obtain ⟨hyields, -, -, htargets, -, hruns⟩ := traversal_in_document_order repeatedRules
  obtain ⟨hwrites, hflaws⟩ := hruns (standard.testScope test [] "R1") []
  obtain ⟨ws, hvalue, hws⟩ := hwrites test rfl
  have hchanged : run.value ≠ [] := by decide +kernel
  have hmet : .problem "TST - R1" (.unknownStatement "mystery") ∈ run.log := by decide +kernel
  refine ⟨(hyields _).2 rfl, ?_, ⟨ws, hvalue, hchanged, hws⟩, ?_, hmet, ?_⟩
  · rw [Node.descendants_eq_preorder]
    decide +kernel
  · exact (htargets test "SCORE" rfl).2 ⟨[1], _, rfl, by decide +kernel, by decide +kernel⟩
  · exact hflaws _ _ hmet _ (by decide +kernel)

end Environment

end Rubric
