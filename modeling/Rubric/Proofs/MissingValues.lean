import Rubric.Evaluate

namespace Rubric

/-- Whether a diagnostic of one of several severities is on record. -/
def Log.Reports (severities : List Severity) (log : Log) : Prop :=
  ∃ e ∈ log.diagnostics, e.severity ∈ severities

namespace Log

variable {severities : List Severity} {label : String} {problem : Problem}

instance (severities : List Severity) (log : Log) : Decidable (log.Reports severities) :=
  inferInstanceAs (Decidable (∃ e ∈ log.diagnostics, e.severity ∈ severities))

theorem not_reports_nil : ¬Reports severities [] := by
  rintro ⟨e, he, -⟩
  cases he

theorem reports_append {xs ys : Log} :
    (xs ++ ys).Reports severities ↔ xs.Reports severities ∨ ys.Reports severities := by
  simp only [Reports, diagnostics_append, List.mem_append]
  constructor
  · rintro ⟨e, he | he, hs⟩
    · exact .inl ⟨e, he, hs⟩
    · exact .inr ⟨e, he, hs⟩
  · rintro (⟨e, he, hs⟩ | ⟨e, he, hs⟩)
    · exact ⟨e, .inl he, hs⟩
    · exact ⟨e, .inr he, hs⟩

theorem reports_problem_iff :
    Reports severities [.problem label problem] ↔ problem.severity ∈ severities := by
  constructor
  · rintro ⟨e, he, hs⟩
    obtain rfl := List.mem_singleton.1 he
    exact hs
  · intro h
    exact ⟨_, List.mem_singleton.2 rfl, h⟩

end Log

namespace Logged

variable {α β : Type}

/-- A value that is there, or else an error on record. -/
def Accounted (x : Logged (Option α)) : Prop :=
  x.value = none → x.log.Reports [.error]

theorem accounted_map_some (x : Logged α) : (some <$> x).Accounted := by
  intro h
  cases h

theorem accounted_bind {x : Logged β} {f : β → Logged (Option α)} (h : ∀ b, (f b).Accounted) :
    (x >>= f).Accounted := by
  intro hnone
  rw [log_bind, Log.reports_append]
  exact .inr (h x.value hnone)

end Logged

open Logged (accounted_map_some accounted_bind)

namespace Scope

variable (s : Scope) (store : Store)

theorem accounted_pure_some {α : Type} (a : α) : (pure (some a) : Logged (Option α)).Accounted := by
  intro h
  cases h

theorem accounted_fallback {α : Type} {problem : Problem} (h : problem.severity = .error) :
    (s.fallback problem (none : Option α)).Accounted := by
  intro _
  rw [log_fallback, Log.reports_problem_iff, h]
  exact List.mem_singleton.2 rfl

theorem accounted_correctValue? (node : Node) : (s.correctValue? node).Accounted := by
  unfold correctValue?
  cases s.subject with
  | test test table => exact s.accounted_fallback rfl
  | item item responses =>
    cases hresponse : item.response? node.identifier with
    | none =>
      simp only [hresponse]
      exact s.accounted_fallback rfl
    | some d =>
      simp only [hresponse]
      cases d.correctValue? with
      | none => exact s.accounted_fallback rfl
      | some value => exact accounted_pure_some _

theorem accounted_aggregate? (node : Node) : (s.aggregate? node).Accounted := by
  unfold aggregate?
  cases s.subject with
  | item item responses => exact s.accounted_fallback rfl
  | test test table =>
    cases node.filledAttribute? "variableIdentifier" with
    | none => exact s.accounted_fallback rfl
    | some outcome => exact accounted_bind fun total => accounted_pure_some _

theorem accounted_containerOf? (tag : String) (cardinality : Cardinality) (values : List Value) :
    (s.containerOf? tag cardinality values).Accounted := by
  unfold containerOf?
  dsimp only
  split
  · exact s.accounted_fallback rfl
  · exact accounted_pure_some _

theorem accounted_resolve (node : Node) : (s.resolve store node).Accounted := by
  obtain ⟨name, attributes, children, text⟩ := node
  cases hkind : Node.expression? ⟨name, attributes, children, text⟩ with
  | none =>
    simp only [resolve, hkind]
    cases Node.calculation? ⟨name, attributes, children, text⟩ with
    | none => exact s.accounted_fallback rfl
    | some kind => exact accounted_bind fun _ => accounted_bind fun _ => accounted_pure_some _
  | some kind =>
    simp only [resolve, hkind]
    cases kind with
    | variableValue => exact accounted_map_some _
    | baseValue => exact accounted_map_some _
    | correct => exact s.accounted_correctValue? _
    | ordered => exact accounted_bind fun values => s.accounted_containerOf? name .ordered values
    | multiple => exact accounted_bind fun values => s.accounted_containerOf? name .multiple values
    | customOperator => exact accounted_bind fun _ => accounted_bind fun _ => accounted_pure_some _
    | testVariables => exact s.accounted_aggregate? _

/-- Without an error on record there are as many values as nodes. -/
theorem length_resolveAll {nodes : List Node}
    (h : ¬(s.resolveAll store nodes).log.Reports [.error]) :
    (s.resolveAll store nodes).value.length = nodes.length := by
  induction nodes with
  | nil =>
    simp only [resolveAll]
    rfl
  | cons node rest ih =>
    simp only [resolveAll, Logged.log_bind, Logged.log_pure, List.append_nil, Log.reports_append,
      not_or] at h ⊢
    obtain ⟨hnode, hrest⟩ := h
    obtain ⟨v, hv⟩ := Option.ne_none_iff_exists'.1 fun hnone =>
      hnode (s.accounted_resolve store node hnone)
    simp only [Logged.value_bind, Logged.value_pure, hv, Option.toList_some, List.singleton_append,
      List.length_cons, ih hrest]

end Scope

end Rubric
