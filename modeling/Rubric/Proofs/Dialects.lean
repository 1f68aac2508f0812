import Rubric.Proofs.Likeness

namespace Rubric

namespace Node

/-- Trees of one shape whose corresponding nodes have the same tag and text and, under every name,
the same attribute. -/
inductive Respelled : Node → Node → Prop
  | mk {node node' : Node} (tag : node'.tag = node.tag) (text : node'.text = node.text)
      (attribute? : ∀ name, node'.attribute? name = node.attribute? name)
      (children : List.Forall₂ Respelled node.children node'.children) : Respelled node node'

end Node

/-- How serious an event is, for those that are problems. -/
def Event.severity? (event : Event) : Option Severity :=
  event.diagnostic?.map Diagnostic.severity

theorem indistinct_severity (a b : String) : Indistinct Event.severity? a b :=
  fun _ _ hseverity => congrArg some (hseverity b a)

namespace Node

variable {node node' : Node}

theorem Respelled.children (h : Respelled node node') :
    List.Forall₂ Respelled node.children node'.children := by
  cases h
  assumption

theorem Respelled.head (h : Respelled node node') : node.SameHead Event.severity? node' := by
  obtain ⟨htag, htext, hattribute, -⟩ := h
  exact ⟨indistinct_severity _ _, htag, htext, hattribute⟩

/-- Nodes that name the same attributes in the same order, each in some spelling. -/
theorem Respelled.of_entries (htag : node'.tag = node.tag) (htext : node'.text = node.text)
    (hentries : (node'.attributes.entries.map fun e => (normalAttribute e.1, e.2)) =
      node.attributes.entries.map fun e => (normalAttribute e.1, e.2))
    (hchildren : List.Forall₂ Respelled node.children node'.children) : Respelled node node' := by
  refine .mk htag htext (fun name => ?_) hchildren
  have hfind (entries : List (String × String)) (wanted : String) :
      (entries.find? fun e => normalAttribute e.1 == wanted).map Prod.snd =
        ((entries.map fun e => (normalAttribute e.1, e.2)).find? fun e => e.1 == wanted).map
          Prod.snd := by
    rw [List.find?_map, Option.map_map]
    rfl
  simp only [attribute?]
  rw [hfind, hfind, hentries]

theorem Respelled.alike {cap : Nat} (h : Respelled node node') :
    Alike Event.severity? cap cap node node' := by
  induction node using Node.byChildren generalizing node' with
  | step node ih =>
    have hchildren : List.Forall₂ (Alike Event.severity? cap cap) node.children node'.children :=
      forall₂_imp_of_mem h.children fun c hc _ hcc => ih c hc hcc
    have hbody : node'.body.length = node.body.length :=
      length_body_congr h.head.tag h.children.length_eq.symm
    refine .mk h.head (fun s => .of_eq ?_) (forall₂_kept h.head.tag hchildren)
    simp only [Scope.remarkCut, hbody]

end Node

namespace Environment

variable {root root' : Node}

/-- Two spellings of one tree, for an item or for a test, score alike: the scored results are the
same, and the records hold problems of the same severities in the same order. -/
theorem respelled_rules_score_alike (env : Environment) (h : root.Respelled root') :
    (∀ (item : Item) (result : String) (r : ItemResult),
      let run := env.scoreItem { item with processing := some root } result r
      let run' := env.scoreItem { item with processing := some root' } result r
      run'.value = run.value ∧
      run'.log.diagnostics.map Diagnostic.severity = run.log.diagnostics.map Diagnostic.severity) ∧
    ∀ (test : Test) (result : AssessmentResult),
      let run := env.scoreTest { test with processing := some root } result
      let run' := env.scoreTest { test with processing := some root' } result
      run'.value = run.value ∧
      run'.log.diagnostics.map Diagnostic.severity = run.log.diagnostics.map Diagnostic.severity := by
  let cap := env.config.maxBranchChildren
  have hcapped : env.capped cap = env := rfl
  have halike : List.Forall₂ (Node.Alike Event.severity? cap cap) root.children root'.children :=
    h.children.imp fun _ _ => Node.Respelled.alike
  have hseverities (log : Log) :
      log.diagnostics.map Diagnostic.severity = log.filterMap Event.severity? := List.map_filterMap
  constructor
  · intro item result r run run'
    obtain ⟨hvalue, hlog⟩ := env.sameTo_scoreItem halike item result r
    rw [hcapped] at hvalue hlog
    rw [hseverities, hseverities]
    exact ⟨hvalue, hlog⟩
  · intro test result run run'
    obtain ⟨hvalue, hlog⟩ := env.sameTo_scoreTest halike test result
    rw [hcapped] at hvalue hlog
    rw [hseverities, hseverities]
    exact ⟨hvalue, hlog⟩

/-- A condition that is always wrong, and a value of no known type. -/
def olderRules : Node where
  name := "responseProcessing"
  children := [{
    name := "responseCondition"
    children := [
      { name := "responseIf"
        children := [{ name := "and" }] },
      { name := "responseElse"
        children := [.assigning "SCORE" (.constant "points" "2")] }] }]

def newerRules : Node where
  name := "qti-response-processing"
  children := [{
    name := "qti-response-condition"
    children := [
      { name := "qti-response-if"
        children := [{ name := "qti-and" }] },
      { name := "qti-response-else"
        children := [{
          name := "qti-set-outcome-value"
          attributes := .ofList [("identifier", "SCORE")]
          children := [{
            name := "qti-base-value"
            attributes := .ofList [("base-type", "points")]
            text := some "2" }] }] }] }]

theorem dialects_score_alike :
    let env : Environment := { registry := {}, config := {} }
    let item : Item := { identifier := "X", outcomes := [.number "SCORE"] }
    let problem cause : Event := .problem "X - R1" cause
    let run := env.scoreItem { item with processing := some olderRules } "R1" { identifier := "X" }
    let run' := env.scoreItem { item with processing := some newerRules } "R1" { identifier := "X" }
    run.value.outcomes = [.single "SCORE" .float "2"] ∧
      run.log = [problem (.operandsMissing "and"),
        problem (.baseTypeUnknown "points" "baseValue")] ∧
      run'.log = [problem (.operandsMissing "qti-and"),
        problem (.baseTypeUnknown "points" "qti-base-value")] ∧
      run'.value = run.value ∧
      run'.log.diagnostics.map Diagnostic.severity =
        run.log.diagnostics.map Diagnostic.severity := by
  intro env item problem run run'
  have hrules : olderRules.Respelled newerRules := by
    refine .of_entries (by decide +kernel) rfl rfl (.cons ?condition .nil)
    refine .of_entries (by decide +kernel) rfl rfl (.cons ?branch (.cons ?otherwise .nil))
    case branch =>
      have hand : Node.Respelled { name := "and" } { name := "qti-and" } :=
        .of_entries (by decide +kernel) rfl rfl .nil
      exact .of_entries (by decide +kernel) rfl rfl (.cons hand .nil)
    case otherwise =>
      refine .of_entries (by decide +kernel) rfl rfl (.cons ?assignment .nil)
      refine .of_entries (by decide +kernel) rfl (by decide +kernel) (.cons ?value .nil)
      exact .of_entries (by decide +kernel) rfl (by decide +kernel) .nil
  obtain ⟨hitems, -⟩ := respelled_rules_score_alike env hrules
  obtain ⟨hvalue, hseverities⟩ := hitems item "R1" { identifier := "X" }
  exact ⟨by decide +kernel, by decide +kernel, by decide +kernel, hvalue, hseverities⟩

end Environment

end Rubric
