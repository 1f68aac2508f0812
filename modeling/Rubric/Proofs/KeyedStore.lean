import Rubric.Proofs.Shapes

namespace Rubric

namespace Value

variable {v : Value} {text : String} {texts : List String}

/-- The text that a value gives to a single variable: its scalar, else its first member, else the
empty text. -/
inductive GivesText (v : Value) : String → Prop
  | scalar {text : String} (h : v.scalar = some text) : GivesText v text
  | firstMember {text : String} {rest : List String} (h : v.scalar = none)
    (hmembers : v.members = some (text :: rest)) : GivesText v text
  | nothing (h : v.scalar = none) (hmembers : v.members.getD [] = []) : GivesText v ""

/-- The members that a value gives to a container: its own, else its scalar unless that is empty. -/
inductive GivesMembers (v : Value) : List String → Prop
  | members {texts : List String} (h : v.members = some texts) : GivesMembers v texts
  | scalar {text : String} (h : v.members = none) (hscalar : v.scalar = some text)
    (htext : text ≠ "") : GivesMembers v [text]
  | nothing (h : v.members = none) (hscalar : v.scalar.getD "" = "") : GivesMembers v []

theorem givesText_scalarOf (v : Value) : v.GivesText (Variable.scalarOf v) := by
  obtain ⟨baseType, cardinality, scalar, members, identifier⟩ := v
  cases scalar with
  | some text => exact .scalar rfl
  | none =>
    cases members with
    | none => exact .nothing rfl rfl
    | some texts =>
      cases texts with
      | nil => exact .nothing rfl rfl
      | cons text rest => exact .firstMember rfl rfl

theorem givesMembers_membersOf (v : Value) : v.GivesMembers (Variable.membersOf v) := by
  obtain ⟨baseType, cardinality, scalar, members, identifier⟩ := v
  cases members with
  | some texts => exact .members rfl
  | none =>
    cases scalar with
    | none => exact .nothing rfl rfl
    | some text =>
      by_cases htext : text = ""
      · subst htext
        exact .nothing rfl rfl
      · have hkept : [text].filter (fun t => !t.isEmpty) = [text] := by simp [htext]
        change GivesMembers _ ([text].filter fun t => !t.isEmpty)
        rw [hkept]
        exact .scalar rfl rfl htext

end Value

namespace Variable

/-- A variable of the same shape as `v` that shows the content of a value when it is read. -/
structure Carries (held v : Variable) (value : Value) : Prop where
  identifier : held.identifier = v.identifier
  baseType : held.baseType = v.baseType
  cardinality : held.cardinality = v.cardinality
  single : v.cardinality = .single → ∃ text, value.GivesText text ∧
    held.value = (Value.single v.baseType text).named v.identifier
  container : v.cardinality ≠ .single → ∃ texts, value.GivesMembers texts ∧
    held.value = (Value.container v.baseType v.cardinality texts).named v.identifier

theorem carries_assign (v : Variable) (value : Value) : (v.assign value).Carries v value where
  identifier := v.identifier_assign value
  baseType := v.baseType_assign value
  cardinality := v.cardinality_assign value
  single := by
    intro h
    refine ⟨_, value.givesText_scalarOf, ?_⟩
    simp only [assign, Variable.value, h, Option.getD_some]
  container := by
    intro h
    refine ⟨_, value.givesMembers_membersOf, ?_⟩
    obtain ⟨identifier, baseType, cardinality, scalar, members⟩ := v
    cases cardinality with
    | single => exact absurd rfl h
    | multiple | ordered => rfl

theorem assign_value_eq_self_iff {v : Variable} :
    v.assign v.value = v ↔ v.WellShaped ∧ (v.cardinality = .single → v.scalar ≠ none) := by
  obtain ⟨identifier, baseType, cardinality, scalar, members⟩ := v
  cases cardinality with
  | single =>
    cases scalar <;> simp [assign, value, WellShaped, scalarOf, Value.single, Value.named, eq_comm]
  | multiple | ordered =>
    cases scalar <;> simp [assign, value, WellShaped, membersOf, Value.container, Value.named]

end Variable

namespace Store

variable {store : Store} {d : OutcomeDeclaration} {v : Variable}

theorem update_eq_self {f : Variable → Variable}
    (h : Variable.find? store d.identifier = some v) (hf : f v = v) : store.update d f = store := by
  induction store with
  | nil => cases h
  | cons u us ih =>
    rw [Variable.find?_cons] at h
    rw [update]
    split at h
    · next hu =>
      obtain rfl := Option.some_inj.1 h
      rw [if_pos hu, hf]
    · next hu => rw [if_neg hu, ih h]

theorem write_value_eq_self_iff (h : Variable.find? store d.identifier = some v) :
    store.write d v.value = store ↔ v.assign v.value = v := by
  constructor
  · intro hsame
    have hread := find?_write store d v.value d.identifier
    rw [hsame, if_pos rfl, variableOf, h, Option.getD_some] at hread
    exact (Option.some_inj.1 hread).symm
  · intro hfixed
    exact update_eq_self h hfixed

theorem variableOf_write_of_ne {e : OutcomeDeclaration} (h : d.identifier ≠ e.identifier)
    (store : Store) (value : Value) : (store.write d value).variableOf e = store.variableOf e := by
  rw [variableOf, find?_write, if_neg h, variableOf]

/-- Two writes that both create their variables leave them in different orders, but no look-up sees
that. -/
theorem find?_write_write_comm {e : OutcomeDeclaration} (h : d.identifier ≠ e.identifier)
    (store : Store) (a b : Value) (x : String) :
    Variable.find? ((store.write d a).write e b) x =
      Variable.find? ((store.write e b).write d a) x := by
  simp only [find?_write, variableOf_write_of_ne h, variableOf_write_of_ne h.symm]
  by_cases hd : d.identifier = x
  · have he : e.identifier ≠ x := fun he => h (hd.trans he.symm)
    rw [if_neg he, if_pos hd, if_pos hd]
  · rw [if_neg hd, if_neg hd]

/-- The laws of a keyed store. The second of two writes under a declaration counts. A write shows in
no look-up but its own, so writes under different identifiers come to the same in either order. What
was written is found, in the shape of the variable that was there, or else of the declaration.
Writing back what a variable shows changes nothing exactly when the variable holds no more. -/
theorem write_obeys_laws (store : Store) (d e : OutcomeDeclaration) (a b : Value) :
    (store.write d a).write d b = store.write d b ∧
    (∀ x, x ≠ d.identifier →
      Variable.find? (store.write d a) x = Variable.find? store x) ∧
    (d.identifier ≠ e.identifier → ∀ x,
      Variable.find? ((store.write d a).write e b) x =
        Variable.find? ((store.write e b).write d a) x) ∧
    (∃ held, Variable.find? (store.write d a) d.identifier = some held ∧
      held.Carries ((Variable.find? store d.identifier).getD d.toVariable) a) ∧
    ∀ v, Variable.find? store d.identifier = some v →
      (store.write d v.value = store ↔
        v.WellShaped ∧ (v.cardinality = .single → v.scalar ≠ none)) := by
  refine ⟨write_write_self store d a b, fun x hx => ?_,
    fun h => find?_write_write_comm h store a b, ⟨_, ?_, Variable.carries_assign _ a⟩,
    fun v hv => ?_⟩
  · rw [find?_write, if_neg hx.symm]
  · rw [find?_write, if_pos rfl, variableOf]
  · rw [write_value_eq_self_iff hv, Variable.assign_value_eq_self_iff]

/-- Two variables share an identifier, and the first of them counts. It is a container, takes the
text of a single value as its only member, and takes its own members back unchanged. A write to the
other variable may come before that or after. -/
theorem repeated_container_written :
    let tags := Variable.container "TAGS" .identifier .multiple
    let store : Store := [tags ["A", "B"], .single "TAGS" .string "C", .single "X" .float "1"]
    let d : OutcomeDeclaration := { identifier := "TAGS" }
    let e : OutcomeDeclaration := { identifier := "X" }
    let text := Value.single .identifier "D"
    Variable.find? (store.write d text) "X" = some (.single "X" .float "1") ∧
      (∀ x, Variable.find? ((store.write d text).write e (.number 2.0)) x =
        Variable.find? ((store.write e (.number 2.0)).write d text) x) ∧
      (∃ held, Variable.find? (store.write d text) "TAGS" = some held ∧
        held.Carries (tags ["A", "B"]) text) ∧
      store.write d (tags ["A", "B"]).value = store := by
  intro tags store d e text
  obtain ⟨-, hother, hcomm, hfound, hback⟩ := write_obeys_laws store d e text (.number 2.0)
  refine ⟨hother "X" (by decide), hcomm (by decide), hfound, (hback _ rfl).2 ⟨rfl, fun h => ?_⟩⟩
  cases h

end Store

end Rubric
