import Rubric.Proofs.Likeness

namespace Rubric

open Logged (SameTo)

variable {γ : Type} {view : Event → Option γ} {k cap : Nat}

/-- The remark that a branch has more statements than a cap lets be executed. -/
def Event.isCut (cap : Nat) : Event → Bool
  | .problem _ (.branchCut _ c) => c == cap
  | _ => false

/-- What is seen of an event by who does not see the remarks under a cap. -/
def Event.unlessCut? (cap : Nat) (event : Event) : Option Event :=
  Option.guard (!·.isCut cap) event

namespace Scope

variable (s : Scope) {body body' : List Node}

theorem remarkCut_of_le (h : body.length ≤ cap) : (s.capped cap).remarkCut body = pure () :=
  if_neg (Nat.not_lt.2 h)

theorem remarkCut_of_lt (h : cap < body.length) :
    (s.capped cap).remarkCut body = (s.capped cap).report (.branchCut body.length cap) :=
  if_pos h

theorem sameTo_remarkCut (h : body'.length ≤ cap) :
    SameTo (Event.unlessCut? k) ((s.capped k).remarkCut body) ((s.capped cap).remarkCut body') where
  value := Subsingleton.elim _ _
  log := by
    rw [s.remarkCut_of_le h]
    rcases Nat.lt_or_ge k body.length with hlt | hle
    · rw [s.remarkCut_of_lt hlt]
      simp [Event.unlessCut?, Event.isCut]
    · rw [s.remarkCut_of_le hle]

end Scope

namespace Node

mutual

/-- A tree cut to what a run under a cap gets to see of it. -/
def cut (k : Nat) : Node → Node
  | ⟨name, attributes, children, text⟩ =>
    ⟨name, attributes, kept k ⟨name, attributes, cutAll k children, text⟩, text⟩

def cutAll (k : Nat) : List Node → List Node
  | [] => []
  | node :: rest => node.cut k :: cutAll k rest

end

/-- A tree with every branch below the root cut to its condition and `k` statements. -/
def truncate (k : Nat) (root : Node) : Node :=
  { root with children := cutAll k root.children }

/-- Below the root, no branch has more statements than the cap lets be executed. -/
def Fits (cap : Nat) (root : Node) : Prop :=
  ∀ n ∈ preorderAll root.children, n.body.length ≤ cap

instance (cap : Nat) (root : Node) : Decidable (root.Fits cap) :=
  inferInstanceAs (Decidable (∀ n ∈ preorderAll root.children, n.body.length ≤ cap))

theorem cutAll_eq_map (nodes : List Node) : cutAll k nodes = nodes.map (cut k) := by
  induction nodes with
  | nil => rfl
  | cons node rest ih => simp only [cutAll, List.map_cons, ih]

theorem cut_eq (node : Node) :
    node.cut k = { node with children := (node.kept k).map (cut k) } := by
  obtain ⟨name, attributes, children, text⟩ := node
  have hu : uncounted? ⟨name, attributes, children.map (cut k), text⟩ =
      uncounted? ⟨name, attributes, children, text⟩ := uncounted?_congr (by rw [tag, tag])
  simp only [cut, cutAll_eq_map, kept, hu]
  split
  · rw [List.map_take]
  · rfl

theorem sameHead_cut (node : Node) : node.SameHead view (node.cut k) := by
  rw [cut_eq]
  exact .of_fields rfl rfl rfl

theorem length_body_cut_le (node : Node) : (node.cut k).body.length ≤ k := by
  have htag : (node.cut k).tag = node.tag := by rw [cut_eq, tag, tag]
  rw [body, uncounted?_congr htag, cut_eq, kept]
  cases node.uncounted? with
  | none => exact Nat.zero_le k
  | some n =>
    simp only [List.length_drop, List.length_map, List.length_take]
    omega

theorem alike_cut (hk : k ≤ cap) (node : Node) :
    Alike (Event.unlessCut? k) k cap node (node.cut k) := by
  induction node using Node.byChildren with
  | step node ih =>
    -- What is left of a branch fits the larger cap, so that a run under it sees all of that.
    have hbody := (length_body_cut_le node).trans hk
    refine .mk (sameHead_cut node) (fun s => s.sameTo_remarkCut hbody) ?_
    rw [kept_of_length_body_le hbody, cut_eq, List.forall₂_map_right_iff, List.forall₂_same]
    exact fun c hc => ih c (mem_children_of_mem_kept hc)

theorem alike_self {node : Node} (hk : ∀ n ∈ node.preorder, n.body.length ≤ k)
    (hcap : ∀ n ∈ node.preorder, n.body.length ≤ cap) : Alike some k cap node node := by
  induction node using Node.byChildren with
  | step node ih =>
    have hself : node ∈ node.preorder := mem_preorder.2 (.inl rfl)
    have hbody := hk node hself
    have hbody' := hcap node hself
    refine .mk (.of_fields rfl rfl rfl) (fun s => .of_eq ?_) ?_
    · rw [s.remarkCut_of_le hbody, s.remarkCut_of_le hbody']
    · rw [kept_of_length_body_le hbody, kept_of_length_body_le hbody', List.forall₂_same]
      intro c hc
      have hbelow (n : Node) (hn : n ∈ c.preorder) : n ∈ node.preorder :=
        mem_preorder.2 (.inr ⟨c, hc, hn⟩)
      exact ih c hc (fun n hn => hk n (hbelow n hn)) fun n hn => hcap n (hbelow n hn)

theorem forall₂_truncate (hk : k ≤ cap) (root : Node) :
    List.Forall₂ (Alike (Event.unlessCut? k) k cap) root.children (root.truncate k).children := by
  rw [truncate, cutAll_eq_map, List.forall₂_map_right_iff, List.forall₂_same]
  exact fun node _ => alike_cut hk node

theorem Fits.forall₂_self {root : Node} (hk : root.Fits k) (hcap : root.Fits cap) :
    List.Forall₂ (Alike some k cap) root.children root.children := by
  rw [List.forall₂_same]
  intro node hnode
  have hbelow (n : Node) (hn : n ∈ node.preorder) : n ∈ preorderAll root.children :=
    mem_preorderAll.2 ⟨node, hnode, hn⟩
  exact alike_self (fun n hn => hk n (hbelow n hn)) fun n hn => hcap n (hbelow n hn)

end Node

namespace Logged.SameTo

variable {α : Type} {x y : Logged α}

theorem of_unlessCut (h : SameTo (Event.unlessCut? k) x y) :
    y.value = x.value ∧ y.log.filter (!·.isCut k) = x.log.filter (!·.isCut k) := by
  obtain ⟨hvalue, hlog⟩ := h
  simp only [← List.filterMap_eq_filter]
  exact ⟨hvalue, hlog⟩

theorem eq (h : SameTo some x y) : y = x := by
  obtain ⟨hvalue, hlog⟩ := h
  rw [List.filterMap_some, List.filterMap_some] at hlog
  exact Logged.ext hvalue hlog

end Logged.SameTo

namespace Environment

variable (env : Environment) (root : Node)

/-- Under a cap, the rules of an item or of a test score like the rules that are left when every
branch is cut to that cap do under any cap at least as large, the remarks under the first cap aside.
Under caps that no branch exceeds, rules score entirely alike. -/
theorem branch_cap_truncates :
    (∀ k cap, k ≤ cap →
      (∀ (item : Item) (result : String) (r : ItemResult),
        let run := (env.capped k).scoreItem { item with processing := some root } result r
        let run' := (env.capped cap).scoreItem
          { item with processing := some (root.truncate k) } result r
        run'.value = run.value ∧
        run'.log.filter (!·.isCut k) = run.log.filter (!·.isCut k)) ∧
      ∀ (test : Test) (result : AssessmentResult),
        let run := (env.capped k).scoreTest { test with processing := some root } result
        let run' := (env.capped cap).scoreTest
          { test with processing := some (root.truncate k) } result
        run'.value = run.value ∧
        run'.log.filter (!·.isCut k) = run.log.filter (!·.isCut k)) ∧
    ∀ cap cap', root.Fits cap → root.Fits cap' →
      (∀ (item : Item) (result : String) (r : ItemResult),
        (env.capped cap').scoreItem { item with processing := some root } result r =
          (env.capped cap).scoreItem { item with processing := some root } result r) ∧
      ∀ (test : Test) (result : AssessmentResult),
        (env.capped cap').scoreTest { test with processing := some root } result =
          (env.capped cap).scoreTest { test with processing := some root } result := by
  constructor
  · intro k cap hk
    have halike : List.Forall₂ (Node.Alike (Event.unlessCut? k) k cap) root.children
        (root.truncate k).children := Node.forall₂_truncate hk root
    constructor
    · intro item result r run run'
      exact (env.sameTo_scoreItem halike item result r).of_unlessCut
    · intro test result run run'
      exact (env.sameTo_scoreTest halike test result).of_unlessCut
  · intro cap cap' hcap hcap'
    have halike := Node.Fits.forall₂_self hcap hcap'
    constructor
    · intro item result r
      exact (env.sameTo_scoreItem halike item result r).eq
    · intro test result
      exact (env.sameTo_scoreTest halike test result).eq

def overlongRules : Node where
  name := "responseProcessing"
  children := [{
    name := "responseCondition"
    children := [{
      name := "responseElse"
      children := [
        .assigning "A" (.constant "float" "1"), .assigning "B" (.constant "float" "1"),
        .assigning "C" (.constant "float" "1")] }] }]

theorem overlong_branch_truncated :
    let env : Environment := { registry := {}, config := {} }
    let item : Item :=
      { identifier := "X", outcomes := [.number "A", .number "B", .number "C"] }
    let score cap root := (env.capped cap).scoreItem { item with processing := some root } "R1"
      { identifier := "X" }
    let run := score 2 overlongRules
    let run' := score 5 (overlongRules.truncate 2)
    run.value.outcomes = [.single "A" .float "1", .single "B" .float "1", .single "C" .float "0"] ∧
      run.log = [.problem "X - R1" (.branchCut 3 2)] ∧ run'.log = [] ∧
      run'.value = run.value ∧ run'.log.filter (!·.isCut 2) = run.log.filter (!·.isCut 2) ∧
      overlongRules.Fits 3 ∧ overlongRules.Fits 5 ∧
      score 5 overlongRules = score 3 overlongRules := by
  intro env item score run run'
  have hthree : overlongRules.Fits 3 := by decide +kernel
  have hfive : overlongRules.Fits 5 := by decide +kernel
  obtain ⟨htruncated, hfitting⟩ := branch_cap_truncates env overlongRules
  obtain ⟨hcut, -⟩ := htruncated 2 5 (by decide)
  obtain ⟨hvalue, hlog⟩ := hcut item "R1" { identifier := "X" }
  obtain ⟨hsame, -⟩ := hfitting 3 5 hthree hfive
  exact ⟨by decide +kernel, by decide +kernel, by decide +kernel, hvalue, hlog, hthree, hfive,
    hsame item "R1" { identifier := "X" }⟩

end Environment

end Rubric
