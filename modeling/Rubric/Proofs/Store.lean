import Rubric.Variable

namespace Rubric

namespace Variable

theorem assign_assign (v : Variable) (a b : Value) : (v.assign a).assign b = v.assign b := by
  obtain ⟨identifier, baseType, cardinality, scalar, members⟩ := v
  cases cardinality <;> rfl

@[simp]
theorem assign_named (v : Variable) (value : Value) (identifier : String) :
    v.assign (value.named identifier) = v.assign value := by
  obtain ⟨name, baseType, cardinality, scalar, members⟩ := v
  cases cardinality <;> rfl

theorem find?_nil (identifier : String) : find? [] identifier = none := rfl

theorem find?_cons (v : Variable) (vs : List Variable) (identifier : String) :
    find? (v :: vs) identifier =
      if v.identifier = identifier then some v else find? vs identifier := by
  by_cases h : v.identifier = identifier <;> simp [find?, h]

theorem identifier_of_find? {vs : List Variable} {identifier : String} {v : Variable}
    (h : find? vs identifier = some v) : v.identifier = identifier := by
  simpa using List.find?_some h

end Variable

namespace OutcomeDeclaration

theorem identifier_of_find? {ds : List OutcomeDeclaration} {identifier : String}
    {d : OutcomeDeclaration} (h : find? ds identifier = some d) : d.identifier = identifier := by
  simpa using List.find?_some h

theorem find?_cons (d : OutcomeDeclaration) (ds : List OutcomeDeclaration) (identifier : String) :
    find? (d :: ds) identifier =
      if d.identifier = identifier then some d else find? ds identifier := by
  by_cases h : d.identifier = identifier <;> simp [find?, h]

theorem isSome_find?_of_mem {ds : List OutcomeDeclaration} {d : OutcomeDeclaration} (h : d ∈ ds) :
    (find? ds d.identifier).isSome = true := by
  simp only [find?, List.find?_isSome, beq_iff_eq]
  exact ⟨d, h, rfl⟩

theorem find?_append_number (ds : List OutcomeDeclaration) (added identifier : String) :
    find? (ds ++ [.number added]) identifier =
      (find? ds identifier).or
        (if added = identifier then some (.number identifier) else none) := by
  rw [find?, List.find?_append]
  by_cases h : added = identifier
  · simp [find?, number, h]
  · simp [find?, number, h]

end OutcomeDeclaration

namespace Store

/-- An update shows in the lookup of its own identifier alone. -/
theorem find?_update (store : Store) (d : OutcomeDeclaration) (identifier : String)
    {f : Variable → Variable} (hf : ∀ v, (f v).identifier = v.identifier) :
    Variable.find? (store.update d f) identifier =
      if d.identifier = identifier then some (f (store.variableOf d))
      else Variable.find? store identifier := by
  induction store with
  | nil =>
    have hd : (f d.toVariable).identifier = d.identifier := hf _
    simp only [update, variableOf, Variable.find?_cons, Variable.find?_nil, hd, Option.getD_none]
  | cons v vs ih =>
    by_cases hv : v.identifier = d.identifier
    · have hfv : (f v).identifier = d.identifier := (hf v).trans hv
      simp only [update, variableOf, Variable.find?_cons, hv, hfv, ↓reduceIte, Option.getD_some]
      split <;> rfl
    · simp only [update, variableOf, Variable.find?_cons, hv, ↓reduceIte, ih]
      split
      · next h => rw [if_neg (fun hd => hv (h.trans hd.symm))]
      · rfl

theorem find?_write (store : Store) (d : OutcomeDeclaration) (value : Value)
    (identifier : String) :
    Variable.find? (store.write d value) identifier =
      if d.identifier = identifier then some ((store.variableOf d).assign value)
      else Variable.find? store identifier :=
  find?_update store d identifier fun v => v.identifier_assign value

@[simp]
theorem write_named (store : Store) (d : OutcomeDeclaration) (value : Value) (identifier : String) :
    store.write d (value.named identifier) = store.write d value := by
  simp only [write, Variable.assign_named]

theorem find?_ensure (store : Store) (d : OutcomeDeclaration) (identifier : String) :
    Variable.find? (store.ensure d) identifier =
      if d.identifier = identifier then some (store.variableOf d)
      else Variable.find? store identifier :=
  find?_update store d identifier fun _ => rfl

theorem find?_ensureAll (store : Store) (ds : List OutcomeDeclaration) (identifier : String) :
    Variable.find? (store.ensureAll ds) identifier =
      (Variable.find? store identifier).or
        ((OutcomeDeclaration.find? ds identifier).map OutcomeDeclaration.toVariable) := by
  induction ds generalizing store with
  | nil => simp [ensureAll, OutcomeDeclaration.find?]
  | cons d ds ih =>
    have hstep : store.ensureAll (d :: ds) = (store.ensure d).ensureAll ds := rfl
    rw [hstep, ih, find?_ensure]
    by_cases hd : d.identifier = identifier
    · subst hd
      cases hv : Variable.find? store d.identifier <;>
        simp [variableOf, OutcomeDeclaration.find?, hv]
    · simp [OutcomeDeclaration.find?, hd]

theorem isSome_find?_ensureAll {store : Store} {ds : List OutcomeDeclaration}
    {d : OutcomeDeclaration} (h : d ∈ ds) :
    (Variable.find? (store.ensureAll ds) d.identifier).isSome = true := by
  rw [find?_ensureAll]
  have hd := OutcomeDeclaration.isSome_find?_of_mem h
  simp [hd]

theorem isSome_find?_write {store : Store} {identifier : String} (d : OutcomeDeclaration)
    (value : Value) (h : (Variable.find? store identifier).isSome = true) :
    (Variable.find? (store.write d value) identifier).isSome = true := by
  rw [find?_write]
  split
  · rfl
  · exact h

/-- The variable under an identifier has the shape of `v`, whatever it holds. -/
def HasShape (store : Store) (v : Variable) : Prop :=
  ∃ w, Variable.find? store v.identifier = some w ∧ ∀ value, w.assign value = v.assign value

theorem HasShape.of_find? {store : Store} {v : Variable}
    (h : Variable.find? store v.identifier = some v) : store.HasShape v :=
  ⟨v, h, fun _ => rfl⟩

theorem HasShape.write {store : Store} {v : Variable} (h : store.HasShape v)
    (d : OutcomeDeclaration) (value : Value) : (store.write d value).HasShape v := by
  obtain ⟨w, hw, hv⟩ := h
  by_cases hd : d.identifier = v.identifier
  · refine ⟨w.assign value, ?_, fun a => ?_⟩
    · rw [find?_write, if_pos hd, variableOf, hd, hw, Option.getD_some]
    · rw [Variable.assign_assign, hv]
  · exact ⟨w, by rw [find?_write, if_neg hd, hw], hv⟩

theorem HasShape.find?_write {store : Store} {v : Variable} (h : store.HasShape v)
    {d : OutcomeDeclaration} (hd : d.identifier = v.identifier) (value : Value) :
    Variable.find? (store.write d value) v.identifier = some (v.assign value) := by
  obtain ⟨w, hw, hv⟩ := h
  rw [Store.find?_write, if_pos hd, variableOf, hd, hw, Option.getD_some, hv]

end Store

end Rubric
