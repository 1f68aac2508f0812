import Rubric.Proofs.CorrectResponse

namespace Rubric

namespace Variable

def scalarTexts (v : Variable) : List String :=
  v.scalar.toList.filter fun text => !text.isEmpty

/-- The first of the texts that stand in either place: the scalar unless it is empty, else the first
member. -/
def firstText (v : Variable) : String :=
  if v.scalarTexts = [] then v.members.headD "" else v.scalar.getD ""

/-- The texts that stand in either place: the members if there are any, else the scalar. -/
def allTexts (v : Variable) : List String :=
  if v.members = [] then v.scalarTexts else v.members

/-- The variable without what stands in the place that its cardinality leaves unread. -/
def tidied (v : Variable) : Variable :=
  if v.cardinality = .single then { v with members := [] } else { v with scalar := none }

/-- In the shape of a cardinality, the place that a variable leaves unread adds nothing. -/
def ReadInFull (v : Variable) (c : Cardinality) : Prop :=
  if c = .single then
    if v.cardinality = .single then v.scalarTexts = [] → v.members.headD "" = ""
    else v.scalarTexts ≠ [] → v.members.headD "" = v.scalar.getD ""
  else
    if v.cardinality = .single then v.members ≠ [] → v.scalarTexts = v.members
    else v.members = [] → v.scalarTexts = []

variable {v : Variable}

theorem scalarTexts_eq_nil_iff : v.scalarTexts = [] ↔ v.scalar.getD "" = "" := by
  rw [scalarTexts]
  cases v.scalar <;> simp

theorem firstText_tidied :
    v.tidied.firstText =
      if v.cardinality = .single then v.scalar.getD "" else v.members.headD "" := by
  by_cases h : v.cardinality = .single
  · rw [tidied, if_pos h, if_pos h, firstText]
    split
    · next hnil => exact (scalarTexts_eq_nil_iff.1 hnil).symm
    · rfl
  · rw [tidied, if_neg h, if_neg h]
    rfl

theorem allTexts_tidied :
    v.tidied.allTexts = if v.cardinality = .single then v.scalarTexts else v.members := by
  by_cases h : v.cardinality = .single
  · rw [tidied, if_pos h, if_pos h]
    rfl
  · rw [tidied, if_neg h, if_neg h, allTexts]
    split
    · next hnil => exact hnil.symm
    · rfl

theorem firstText_tidied_iff : v.tidied.firstText = v.firstText ↔ v.ReadInFull .single := by
  rw [firstText_tidied, firstText, ReadInFull, if_pos rfl]
  by_cases h : v.cardinality = .single
  · rw [if_pos h, if_pos h]
    by_cases hnil : v.scalarTexts = []
    · simp only [hnil, if_true, scalarTexts_eq_nil_iff.1 hnil, eq_comm, true_imp_iff]
    · simp only [hnil, if_false, false_imp_iff]
  · rw [if_neg h, if_neg h]
    by_cases hnil : v.scalarTexts = []
    · simp only [hnil, if_true, ne_eq, not_true_eq_false, false_imp_iff]
    · simp only [hnil, if_false, ne_eq, not_false_eq_true, true_imp_iff]

theorem allTexts_tidied_iff {c : Cardinality} (hc : c ≠ .single) :
    v.tidied.allTexts = v.allTexts ↔ v.ReadInFull c := by
  rw [allTexts_tidied, allTexts, ReadInFull, if_neg hc]
  by_cases h : v.cardinality = .single
  · rw [if_pos h, if_pos h]
    by_cases hnil : v.members = []
    · simp only [hnil, if_true, ne_eq, not_true_eq_false, false_imp_iff]
    · simp only [hnil, if_false, ne_eq, not_false_eq_true, true_imp_iff]
  · rw [if_neg h, if_neg h]
    by_cases hnil : v.members = []
    · simp only [hnil, if_true, eq_comm, true_imp_iff]
    · simp only [hnil, if_false, false_imp_iff]

theorem readInFull_of_wellShaped (h : v.WellShaped) (c : Cardinality) : v.ReadInFull c := by
  obtain ⟨identifier, baseType, cardinality, scalar, members⟩ := v
  cases cardinality with
  | single =>
    obtain rfl : members = [] := h
    cases c <;> simp [ReadInFull]
  | multiple | ordered =>
    obtain rfl : scalar = none := h
    cases c <;> simp [ReadInFull, scalarTexts]

end Variable

namespace ResponseDeclaration

/-- The content of a variable as a value of the declared shape. -/
def holding (d : ResponseDeclaration) (v : Variable) : Value :=
  match d.cardinality with
  | .single => (Value.single d.baseType v.firstText).named v.identifier
  | cardinality => (Value.container d.baseType cardinality v.allTexts).named v.identifier

variable {d : ResponseDeclaration} {v : Variable}

theorem baseType_holding : (d.holding v).baseType = d.baseType := by
  unfold holding
  split <;> rfl

theorem cardinality_holding : (d.holding v).cardinality = d.cardinality := by
  rw [holding]
  cases d.cardinality <;> rfl

theorem value_shapedBy_eq_holding : (v.shapedBy d).value = d.holding v.tidied := by
  obtain ⟨identifier, baseType, cardinality, scalar, members⟩ := v
  obtain ⟨name, declaredType, declared, correct, correctMembers⟩ := d
  have hfirst := @Variable.firstText_tidied ⟨identifier, baseType, cardinality, scalar, members⟩
  have hall := @Variable.allTexts_tidied ⟨identifier, baseType, cardinality, scalar, members⟩
  cases declared with
  | single =>
    cases cardinality with
    | single => exact congrArg (fun text => (Value.single _ text).named _) hfirst.symm
    | multiple | ordered =>
      have hhead : members.head?.getD "" = members.headD "" := List.headD_eq_head?_getD.symm
      exact congrArg (fun text => (Value.single _ text).named _) (hhead.trans hfirst.symm)
  | multiple | ordered =>
    cases cardinality with
    | single =>
      have hscalar := (Variable.filter_getD_isEmpty scalar).trans hall.symm
      exact congrArg (fun texts => (Value.container _ _ texts).named _) hscalar
    | multiple | ordered =>
      exact congrArg (fun texts => (Value.container _ _ texts).named _) hall.symm

theorem identifier_tidied : v.tidied.identifier = v.identifier := by
  rw [Variable.tidied]
  split <;> rfl

theorem holding_tidied_iff : d.holding v.tidied = d.holding v ↔ v.ReadInFull d.cardinality := by
  rw [holding, holding, identifier_tidied]
  cases d.cardinality with
  | single =>
    rw [← Variable.firstText_tidied_iff]
    simp [Value.single, Value.named]
  | multiple =>
    rw [← Variable.allTexts_tidied_iff Cardinality.noConfusion]
    simp [Value.container, Value.named]
  | ordered =>
    rw [← Variable.allTexts_tidied_iff Cardinality.noConfusion]
    simp [Value.container, Value.named]

end ResponseDeclaration

namespace Scope

variable {s : Scope} {item : Item} {responses : List Variable} {node : Node}
  {d : ResponseDeclaration} {v : Variable}

/-- The value of a recorded response has the declared base type and cardinality. It holds what the
recorded variable holds in the place that its own cardinality reads. That is all that stands in both
places exactly when the other place adds nothing, so always for a well shaped variable. -/
theorem recorded_content_kept_iff (hs : s.subject = .item item responses)
    (hnamed : node.identifier ≠ "") (hd : item.response? node.identifier = some d)
    (hv : Variable.find? responses node.identifier = some v) (store : Store) :
    let value := d.holding v.tidied
    s.variableValue store node = pure value ∧
      value.baseType = d.baseType ∧ value.cardinality = d.cardinality ∧
      (value = d.holding v ↔ v.ReadInFull d.cardinality) ∧
      (v.WellShaped → v.ReadInFull d.cardinality) := by
  intro value
  have hvalue : (v.shapedBy d).value = value := d.value_shapedBy_eq_holding
  refine ⟨?_, d.baseType_holding, d.cardinality_holding, d.holding_tidied_iff, ?_⟩
  · rw [variableValue_of_responseValue? hs hnamed (responseValue?_of_recorded hd hv), hvalue]
  · exact fun h => Variable.readInFull_of_wellShaped h d.cardinality

/-- A sequence recorded where a single choice is declared: its first member is the choice. -/
theorem recorded_sequence_read_as_choice :
    let d : ResponseDeclaration := { identifier := "RESPONSE", baseType := .identifier }
    let v : Variable := .container "RESPONSE" .string .ordered ["C", "A"]
    let value := ((ofResponse d [v]).variableValue [] (.reading "RESPONSE")).value
    value = d.holding v ∧ value.scalar = some "C" := by
  intro d v value
  have hs : (ofResponse d [v]).subject =
      .item { identifier := "ITM-1", responses := [d] } [v] := rfl
  have hnamed : (Node.reading "RESPONSE").identifier ≠ "" := by decide
  obtain ⟨hvalue, -, -, hkept, hshaped⟩ := recorded_content_kept_iff hs hnamed rfl rfl []
  have hall : value = d.holding v := (congrArg Logged.value hvalue).trans (hkept.2 (hshaped rfl))
  exact ⟨hall, hall ▸ rfl⟩

/-- Members that were recorded without a cardinality do not reach the declared container. -/
theorem members_of_single_lost :
    let d : ResponseDeclaration :=
      { identifier := "RESPONSE", baseType := .identifier, cardinality := .multiple }
    let v : Variable := { identifier := "RESPONSE", baseType := .identifier, members := ["A", "C"] }
    let item : Item := { identifier := "ITM-1", responses := [d] }
    let value := ((ofResponse d [v]).variableValue [] (.reading "RESPONSE")).value
    (ofResponse d [v]).subject = .item item [v] ∧ item.response? "RESPONSE" = some d ∧
      Variable.find? [v] "RESPONSE" = some v ∧ value ≠ d.holding v ∧
      value.members = some [] ∧ (d.holding v).members = some ["A", "C"] := by
  intro d v item value
  have hvalue : value.members = some [] := by decide
  have hall : (d.holding v).members = some ["A", "C"] := rfl
  refine ⟨rfl, rfl, rfl, fun heq => ?_, hvalue, hall⟩
  rw [heq, hall] at hvalue
  cases hvalue

end Scope

end Rubric
