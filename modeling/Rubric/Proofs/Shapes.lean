import Mathlib.Data.List.Count
import Rubric.Proofs.Frame

namespace Rubric

namespace Variable

/-- A single variable without members, or a container without a scalar. -/
def WellShaped (v : Variable) : Prop :=
  match v.cardinality with
  | .single => v.members = []
  | _ => v.scalar = none

instance (v : Variable) : Decidable v.WellShaped := by
  unfold WellShaped
  split <;> infer_instance

theorem wellShaped_assign (v : Variable) (value : Value) : (v.assign value).WellShaped := by
  obtain ⟨identifier, baseType, cardinality, scalar, members⟩ := v
  cases cardinality <;> rfl

end Variable

theorem OutcomeDeclaration.wellShaped_toVariable_iff (d : OutcomeDeclaration) :
    d.toVariable.WellShaped ↔ d.cardinality = .single ∨ d.default = none := by
  obtain ⟨identifier, baseType, cardinality, default⟩ := d
  cases cardinality <;> simp [toVariable, Variable.WellShaped]

namespace Store

variable {store : Store} {v : Variable} {x : String}

def WellShaped (store : Store) : Prop :=
  ∀ v ∈ store, v.WellShaped

theorem mem_write {d : OutcomeDeclaration} {value : Value} (h : v ∈ store.write d value) :
    v ∈ store ∨ v.WellShaped := by
  unfold write at h
  induction store with
  | nil =>
    obtain rfl := List.mem_singleton.1 h
    exact .inr (d.toVariable.wellShaped_assign value)
  | cons w ws ih =>
    by_cases hw : w.identifier = d.identifier
    · rw [update, if_pos hw] at h
      rcases List.mem_cons.1 h with rfl | hrest
      · exact .inr (w.wellShaped_assign value)
      · exact .inl (.tail _ hrest)
    · rw [update, if_neg hw] at h
      rcases List.mem_cons.1 h with rfl | hrest
      · exact .inl (.head _)
      · exact (ih hrest).imp_left (.tail _)

theorem mem_writeAll {ws : List Write} (h : v ∈ store.writeAll ws) : v ∈ store ∨ v.WellShaped := by
  induction ws generalizing store with
  | nil => exact .inl h
  | cons w ws ih =>
    rcases ih h with hmem | hv
    · exact mem_write hmem
    · exact .inr hv

theorem wellShaped_of_mem_write {d : OutcomeDeclaration} {value : Value}
    (honly : (store.map Variable.identifier).count d.identifier ≤ 1)
    (hv : v ∈ store.write d value) (hid : v.identifier = d.identifier) : v.WellShaped := by
  unfold write at hv
  induction store with
  | nil =>
    obtain rfl := List.mem_singleton.1 hv
    exact d.toVariable.wellShaped_assign value
  | cons w ws ih =>
    by_cases hw : w.identifier = d.identifier
    · rw [update, if_pos hw] at hv
      rcases List.mem_cons.1 hv with rfl | hrest
      · exact w.wellShaped_assign value
      · rw [List.map_cons, hw, List.count_cons_self] at honly
        have hmem : d.identifier ∈ ws.map Variable.identifier := hid ▸ List.mem_map_of_mem hrest
        have hpos := List.count_pos_iff.2 hmem
        omega
    · rw [update, if_neg hw] at hv
      rcases List.mem_cons.1 hv with rfl | hrest
      · exact absurd hid hw
      · rw [List.map_cons, List.count_cons_of_ne hw] at honly
        exact ih honly hrest

theorem wellShaped_of_mem_targets {ws : List Write}
    (hpresent : ∀ w ∈ ws, (Variable.find? store w.target).isSome = true)
    (honly : (store.map Variable.identifier).count x ≤ 1) (hx : x ∈ ws.map Write.target)
    (hv : v ∈ store.writeAll ws) (hid : v.identifier = x) : v.WellShaped := by
  induction ws generalizing store with
  | nil => cases hx
  | cons w ws ih =>
    rw [writeAll_cons] at hv
    rcases eq_or_ne x w.target with rfl | hw
    · rcases mem_writeAll hv with hmem | hshaped
      · exact wellShaped_of_mem_write honly hmem hid
      · exact hshaped
    · have hrest : x ∈ ws.map Write.target := (List.mem_cons.1 hx).resolve_left hw
      have hids : (store.write w.declaration w.value).map Variable.identifier =
          store.map Variable.identifier :=
        identifiers_update (hpresent w (.head _)) fun u => u.identifier_assign w.value
      refine ih (fun u hu => ?_) (hids ▸ honly) hrest hv
      exact isSome_find?_write w.declaration w.value (hpresent u (.tail _ hu))

theorem Lacks.count_le_one {ds added : List OutcomeDeclaration} (h : store.Lacks ds added)
    {d : OutcomeDeclaration} (hd : d ∈ added) :
    ((store ++ added.map OutcomeDeclaration.toVariable).map Variable.identifier).count
      d.identifier ≤ 1 := by
  have hnone : Variable.find? store d.identifier = none := ((h.mem_iff d).1 hd).2
  have hold : (store.map Variable.identifier).count d.identifier = 0 := by
    apply List.count_eq_zero_of_not_mem
    simpa [Variable.find?] using hnone
  have hids : (added.map OutcomeDeclaration.toVariable).map Variable.identifier =
      added.map OutcomeDeclaration.identifier := by
    rw [List.map_map]
    rfl
  rw [List.map_append, List.count_append, hold, hids, Nat.zero_add]
  exact List.nodup_iff_count_le_one.1 h.nodup d.identifier

/-- What keeps the variables of some declarations in shape once they are created: a container that
starts with a default has to be written. -/
def Reshaped (ws : List Write) (added : List OutcomeDeclaration) : Prop :=
  ∀ d ∈ added, d.cardinality = .single ∨ d.default = none ∨ d.identifier ∈ ws.map Write.target

theorem wellShaped_writeAll_ensureAll_iff {old : Store} {ds added : List OutcomeDeclaration}
    {ws : List Write} (hold : old.WellShaped) (hadded : old.Lacks ds added)
    (hensure : old.ensureAll ds = old ++ added.map OutcomeDeclaration.toVariable)
    (hws : ∀ w ∈ ws, w.declaration ∈ ds) :
    ((old.ensureAll ds).writeAll ws).WellShaped ↔ Reshaped ws added := by
  constructor
  · intro hshaped d hd
    by_cases hx : d.identifier ∈ ws.map Write.target
    · exact .inr (.inr hx)
    · obtain ⟨hfirst, hnone⟩ := (hadded.mem_iff d).1 hd
      have hother : ∀ w ∈ ws, w.target ≠ d.identifier :=
        fun w hw hwd => hx (List.mem_map.2 ⟨w, hw, hwd⟩)
      have hkept : Variable.find? ((old.ensureAll ds).writeAll ws) d.identifier =
          some d.toVariable := by
        rw [find?_writeAll_of_not_mem hother, find?_ensureAll, hnone, hfirst, Option.none_or,
          Option.map_some]
      have hcreated := hshaped d.toVariable (List.mem_of_find?_eq_some hkept)
      exact (d.wellShaped_toVariable_iff.1 hcreated).imp_right .inl
  · intro h v hv
    rcases mem_writeAll hv with hstart | hshaped
    · rw [hensure] at hstart
      rcases List.mem_append.1 hstart with hmem | hcreated
      · exact hold v hmem
      · obtain ⟨d, hd, rfl⟩ := List.mem_map.1 hcreated
        rcases h d hd with hsingle | hdefault | htarget
        · exact d.wellShaped_toVariable_iff.2 (.inl hsingle)
        · exact d.wellShaped_toVariable_iff.2 (.inr hdefault)
        · refine wellShaped_of_mem_targets (fun w hw => ?_) ?_ htarget hv rfl
          · exact isSome_find?_ensureAll (hws w hw)
          · rw [hensure]
            exact hadded.count_le_one hd
    · exact hshaped

end Store

structure AssessmentResult.WellShaped (result : AssessmentResult) : Prop where
  items : ∀ r ∈ result.itemResults, r.outcomes.WellShaped
  tests : ∀ r ∈ result.testResults, r.outcomes.WellShaped

/-- The run of the rules under a root makes these writes, each to a declared outcome that some
statement assigns. -/
structure Scope.Makes (s : Scope) (root : Option Node) (start : Store) (ws : List Write)
    (log : Log) : Prop where
  permits : s.Permits {x | x ∈ Node.targetsBelow root} ws
  run : s.executeAll (Node.statementsUnder root) start = ⟨start.writeAll ws, log⟩

namespace Environment

theorem exists_reshaped_iff {s : Scope} {ds : List OutcomeDeclaration}
    (hs : ∀ x d, s.outcome? x = some d → d ∈ ds) (root : Option Node) {old : Store}
    (hold : old.WellShaped) :
    ∃ added ws log, old.Lacks ds added ∧ s.Makes root (old.ensureAll ds) ws log ∧
      (((old.ensureAll ds).writeAll ws).WellShaped ↔ Store.Reshaped ws added) := by
  obtain ⟨added, hadded, hensure⟩ := old.exists_lacks ds
  obtain ⟨ws, log, hws, hrun⟩ :=
    s.exists_writes (Node.within_targetsBelow root) (old.ensureAll ds)
  refine ⟨added, ws, log, hadded, ⟨hws, hrun⟩, ?_⟩
  exact Store.wellShaped_writeAll_ensureAll_iff hold hadded hensure fun w hw => hs _ _ (hws w hw).2

variable (env : Environment)

theorem wellShaped_startingResult {result : AssessmentResult} (h : result.WellShaped)
    (identifier : String) :
    (startingResult identifier result.testResults).outcomes.WellShaped := by
  unfold startingResult
  cases hfind : result.testResults.find? fun r => r.identifier == identifier with
  | none =>
    intro v hv
    cases hv
  | some r => exact h.tests r (List.mem_of_find?_eq_some hfind)

theorem wellShaped_scoreTest_iff {test : Test} {result : AssessmentResult} (h : result.WellShaped) :
    (env.scoreTest test result).value.WellShaped ↔
      (env.scoreTestResult test result.itemResults result.identifier
        (startingResult test.identifier result.testResults)).value.outcomes.WellShaped := by
  obtain ⟨before, after, -, hplace, hchange⟩ :=
    exists_place test.identifier result.testResults
  have hscored : (env.scoreTest test result).value.testResults =
      before ++ (env.scoreTestResult test result.itemResults result.identifier
        (startingResult test.identifier result.testResults)).value :: after :=
    congrArg Logged.value (hchange _)
  constructor
  · intro hshaped
    apply hshaped.tests
    rw [hscored]
    exact List.mem_append_right _ (.head _)
  · intro hone
    refine ⟨h.items, fun r hr => ?_⟩
    rw [hscored] at hr
    -- The results around the one that is scored are those recorded.
    have hother : ∀ x, x ∈ before ∨ x ∈ after → x ∈ result.testResults := by
      intro x hx
      rcases hplace with hsplit | ⟨-, hsplit, rfl⟩
      · rw [hsplit]
        simp only [List.mem_append, List.mem_cons]
        exact hx.imp_right .inr
      · rw [hsplit]
        exact hx.resolve_right (List.not_mem_nil)
    rcases List.mem_append.1 hr with hmem | hmem
    · exact h.tests r (hother r (.inl hmem))
    · rcases List.mem_cons.1 hmem with rfl | hmem
      · exact hone
      · exact h.tests r (hother r (.inr hmem))

/-- Variables in the shape of their cardinality stay in it, except that a container whose
declaration has a default is created with the default in the place of a scalar. That lasts unless
some rule that runs writes to it. -/
theorem scoring_wellShaped_iff :
    (∀ (item : Item) (result : String) (r : ItemResult), r.outcomes.WellShaped →
      ∃ added ws log, r.outcomes.Lacks item.outcomes added ∧
        (env.itemScope item r.responses result).Makes item.processing
          (r.outcomes.ensureAll item.outcomes) ws log ∧
        ((env.scoreItem item result r).value.outcomes.WellShaped ↔ Store.Reshaped ws added)) ∧
    ∀ (test : Test) (result : AssessmentResult), result.WellShaped →
      let start := (startingResult test.identifier result.testResults).outcomes
      ∃ added ws log, start.Lacks test.outcomes added ∧
        (env.testScope test result.itemResults result.identifier).Makes test.processing
          (start.ensureAll test.outcomes) ws log ∧
        ((env.scoreTest test result).value.WellShaped ↔ Store.Reshaped ws added) := by
  constructor
  · intro item result r hr
    obtain ⟨added, ws, log, hadded, hmakes, hiff⟩ :=
      exists_reshaped_iff (s := env.itemScope item r.responses result)
        (fun _ _ => Scope.mem_of_outcome?_item rfl) item.processing hr
    refine ⟨added, ws, log, hadded, hmakes, ?_⟩
    rw [env.scoreItem_of_executeAll hmakes.run]
    exact hiff
  · intro test result hresult start
    obtain ⟨added, ws, log, hadded, hmakes, hiff⟩ :=
      exists_reshaped_iff (s := env.testScope test result.itemResults result.identifier)
        (fun _ _ => Scope.mem_of_outcome?_test rfl) test.processing
        (wellShaped_startingResult hresult test.identifier)
    refine ⟨added, ws, log, hadded, hmakes, ?_⟩
    rw [env.wellShaped_scoreTest_iff hresult, env.scoreTestResult_of_executeAll hmakes.run]
    exact hiff

/-- An item with a container that starts with a default, which its rules write to or not. -/
def taggedItem (rules : List Node) : Item where
  identifier := "ITM-1"
  outcomes := [
    { identifier := "TAGS", baseType := .identifier, cardinality := .multiple, default := some "A" },
    .number "SCORE"]
  processing := some { name := "responseProcessing", children := rules }

/-- A rule that writes to the container puts it in shape, so that its name is among the writes. -/
theorem written_container_wellShaped :
    let env : Environment := { registry := .standard .textual, config := {} }
    let item := taggedItem [{
      name := "setOutcomeValue"
      attributes := .ofList [("identifier", "TAGS")]
      children := [{ name := "variable", attributes := .ofList [("identifier", "TAGS")] }] }]
    ∃ added ws log, Store.Lacks [] item.outcomes added ∧
      (env.itemScope item [] "R1").Makes item.processing (Store.ensureAll [] item.outcomes) ws
        log ∧ Store.Reshaped ws added := by
  intro env item
  let r : ItemResult := { identifier := "ITM-1" }
  have hstart : r.outcomes.WellShaped := by
    intro v hv
    cases hv
  have hscored : (env.scoreItem item "R1" r).value.outcomes.WellShaped := by
    unfold Store.WellShaped
    decide +kernel
  obtain ⟨added, ws, log, hadded, hmakes, hiff⟩ := (scoring_wellShaped_iff env).1 item "R1" r hstart
  exact ⟨added, ws, log, hadded, hmakes, hiff.1 hscored⟩

/-- Without such a rule the default stays in the place of a scalar. -/
theorem default_of_container_misplaced :
    let env : Environment := { registry := .standard .textual, config := {} }
    let r : ItemResult := { identifier := "ITM-1" }
    r.outcomes.WellShaped ∧
      ¬ (env.scoreItem (taggedItem []) "R1" r).value.outcomes.WellShaped := by
  unfold Store.WellShaped
  decide +kernel

end Environment

end Rubric
