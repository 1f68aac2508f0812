import Rubric.Proofs.Execution
import Rubric.Proofs.Placement

namespace Rubric

namespace Store

variable {store : Store} {d : OutcomeDeclaration} {f : Variable → Variable}

theorem update_of_find?_eq_none (h : Variable.find? store d.identifier = none) :
    store.update d f = store ++ [f d.toVariable] := by
  induction store with
  | nil => rfl
  | cons v vs ih =>
    rw [Variable.find?_cons] at h
    by_cases hv : v.identifier = d.identifier
    · rw [if_pos hv] at h
      cases h
    · rw [if_neg hv] at h
      rw [update, if_neg hv, ih h, List.cons_append]

theorem ensure_of_isSome (h : (Variable.find? store d.identifier).isSome = true) :
    store.ensure d = store := by
  unfold ensure
  induction store with
  | nil => cases h
  | cons v vs ih =>
    by_cases hv : v.identifier = d.identifier
    · simp only [update, hv, ↓reduceIte, id_eq]
    · simp only [update, hv, ↓reduceIte, ih (isSome_of_ne_head h hv)]

theorem ensureAll_of_isSome {ds : List OutcomeDeclaration}
    (h : ∀ d ∈ ds, (Variable.find? store d.identifier).isSome = true) :
    store.ensureAll ds = store := by
  induction ds with
  | nil => rfl
  | cons d ds ih =>
    have hstep : store.ensureAll (d :: ds) = (store.ensure d).ensureAll ds := rfl
    rw [hstep, ensure_of_isSome (h d (.head _)), ih fun e he => h e (.tail _ he)]

/-- The declarations that a store lacks variables of: the first one of each missing identifier, in
the order of the declarations. -/
structure Lacks (store : Store) (ds added : List OutcomeDeclaration) : Prop where
  sublist : added.Sublist ds
  nodup : (added.map OutcomeDeclaration.identifier).Nodup
  mem_iff : ∀ d, d ∈ added ↔
    OutcomeDeclaration.find? ds d.identifier = some d ∧ Variable.find? store d.identifier = none

theorem find?_append_toVariable (store : Store) (d : OutcomeDeclaration) (x : String) :
    Variable.find? (store ++ [d.toVariable]) x = none ↔
      Variable.find? store x = none ∧ d.identifier ≠ x := by
  have hd : d.toVariable.identifier = d.identifier := rfl
  simp [Variable.find?, hd]

theorem Lacks.cons_of_isSome {ds added : List OutcomeDeclaration} (h : store.Lacks ds added)
    (hd : (Variable.find? store d.identifier).isSome = true) : store.Lacks (d :: ds) added where
  sublist := h.sublist.cons d
  nodup := h.nodup
  mem_iff e := by
    rw [h.mem_iff, OutcomeDeclaration.find?_cons]
    by_cases he : d.identifier = e.identifier
    · rw [he] at hd
      obtain ⟨v, hv⟩ := Option.isSome_iff_exists.1 hd
      simp [hv]
    · rw [if_neg he]

theorem Lacks.cons_of_none {ds added : List OutcomeDeclaration}
    (h : Lacks (store ++ [d.toVariable]) ds added)
    (hd : Variable.find? store d.identifier = none) : store.Lacks (d :: ds) (d :: added) where
  sublist := h.sublist.cons_cons d
  nodup := by
    rw [List.map_cons, List.nodup_cons]
    refine ⟨fun hmem => ?_, h.nodup⟩
    obtain ⟨e, he, hed⟩ := List.mem_map.1 hmem
    obtain ⟨-, hnone⟩ := (h.mem_iff e).1 he
    exact ((find?_append_toVariable store d _).1 hnone).2 hed.symm
  mem_iff e := by
    rw [List.mem_cons, h.mem_iff, find?_append_toVariable, OutcomeDeclaration.find?_cons]
    by_cases he : d.identifier = e.identifier
    · have hnone : Variable.find? store e.identifier = none := he ▸ hd
      simp [he, hnone, eq_comm]
    · have hne : e ≠ d := by
        rintro rfl
        exact he rfl
      simp [he, hne]

theorem exists_lacks (store : Store) (ds : List OutcomeDeclaration) :
    ∃ added, store.Lacks ds added ∧
      store.ensureAll ds = store ++ added.map OutcomeDeclaration.toVariable := by
  induction ds generalizing store with
  | nil =>
    refine ⟨[], ⟨.slnil, .nil, fun d => ?_⟩, (List.append_nil store).symm⟩
    simp [OutcomeDeclaration.find?]
  | cons d ds ih =>
    have hstep : store.ensureAll (d :: ds) = (store.ensure d).ensureAll ds := rfl
    cases hd : Variable.find? store d.identifier with
    | some v =>
      have hsome : (Variable.find? store d.identifier).isSome = true := by rw [hd]; rfl
      obtain ⟨added, hadded, hall⟩ := ih store
      refine ⟨added, hadded.cons_of_isSome hsome, ?_⟩
      rw [hstep, ensure_of_isSome hsome, hall]
    | none =>
      obtain ⟨added, hadded, hall⟩ := ih (store ++ [d.toVariable])
      have hensure : store.ensure d = store ++ [d.toVariable] := update_of_find?_eq_none hd
      refine ⟨d :: added, hadded.cons_of_none hd, ?_⟩
      rw [hstep, hensure, hall, List.map_cons, List.append_assoc]
      rfl

/-- The same variables in the same order and shapes, of which only the first one of an identifier in
`W` may hold something else. -/
structure Reassigned (W : Set String) (old new : Store) : Prop where
  identifiers : new.map Variable.identifier = old.map Variable.identifier
  entry : ∀ i v w, old[i]? = some v → new[i]? = some w →
    w.baseType = v.baseType ∧ w.cardinality = v.cardinality ∧
      (w ≠ v → v.identifier ∈ W ∧ v.identifier ∉ (old.map Variable.identifier).take i)

variable {W : Set String}

theorem Reassigned.refl (W : Set String) (store : Store) : Reassigned W store store where
  identifiers := rfl
  entry i v w hv hw := by
    obtain rfl : v = w := Option.some_inj.1 (hv.symm.trans hw)
    exact ⟨rfl, rfl, fun h => absurd rfl h⟩

theorem Reassigned.trans {old mid new : Store} (h : Reassigned W old mid)
    (h' : Reassigned W mid new) : Reassigned W old new where
  identifiers := h'.identifiers.trans h.identifiers
  entry i v w hv hw := by
    have hids : (mid.map Variable.identifier)[i]? = some v.identifier := by
      rw [h.identifiers, List.getElem?_map, hv, Option.map_some]
    rw [List.getElem?_map] at hids
    obtain ⟨u, hu, huv⟩ := Option.map_eq_some_iff.1 hids
    obtain ⟨htype, hcard, hchanged⟩ := h.entry i v u hv hu
    obtain ⟨htype', hcard', hchanged'⟩ := h'.entry i u w hu hw
    refine ⟨htype'.trans htype, hcard'.trans hcard, fun hne => ?_⟩
    by_cases heq : u = v
    · subst u
      rw [← h.identifiers]
      exact hchanged' hne
    · exact hchanged heq

theorem identifiers_update (hd : (Variable.find? store d.identifier).isSome = true)
    (hf : ∀ v, (f v).identifier = v.identifier) :
    (store.update d f).map Variable.identifier = store.map Variable.identifier := by
  induction store with
  | nil => cases hd
  | cons v vs ih =>
    by_cases hv : v.identifier = d.identifier
    · simp only [update, hv, hf, ↓reduceIte, List.map_cons]
    · simp only [update, hv, ↓reduceIte, List.map_cons, ih (isSome_of_ne_head hd hv)]

theorem getElem?_update (hd : (Variable.find? store d.identifier).isSome = true) (i : Nat) :
    (store.update d f)[i]? = store[i]?.map fun v =>
      if v.identifier = d.identifier ∧ d.identifier ∉ (store.map Variable.identifier).take i then f v
      else v := by
  induction store generalizing i with
  | nil => cases hd
  | cons v vs ih =>
    by_cases hv : v.identifier = d.identifier
    · cases i with
      | zero => simp [update, hv]
      | succ i => simp [update, hv]
    · have hv' : d.identifier ≠ v.identifier := fun h => hv h.symm
      cases i with
      | zero => simp [update, hv]
      | succ i => simp [update, hv, hv', ih (isSome_of_ne_head hd hv)]

theorem reassigned_write (hd : (Variable.find? store d.identifier).isSome = true)
    (hW : d.identifier ∈ W) (value : Value) : Reassigned W store (store.write d value) where
  identifiers := identifiers_update hd fun v => v.identifier_assign value
  entry i v w hv hw := by
    rw [write, getElem?_update hd, hv, Option.map_some, Option.some_inj] at hw
    split at hw
    · next hfirst =>
      subst w
      refine ⟨v.baseType_assign value, v.cardinality_assign value, fun _ => ?_⟩
      rw [hfirst.1]
      exact ⟨hW, hfirst.2⟩
    · subst w
      exact ⟨rfl, rfl, fun h => absurd rfl h⟩

theorem reassigned_writeAll {ws : List Write}
    (hpresent : ∀ w ∈ ws, (Variable.find? store w.target).isSome = true)
    (hW : ∀ w ∈ ws, w.target ∈ W) : Reassigned W store (store.writeAll ws) := by
  induction ws generalizing store with
  | nil => exact Reassigned.refl W store
  | cons w ws ih =>
    have hrest : ∀ u ∈ ws,
        (Variable.find? (store.write w.declaration w.value) u.target).isSome = true :=
      fun u hu => isSome_find?_write w.declaration w.value (hpresent u (.tail _ hu))
    have hstep : Reassigned W store (store.write w.declaration w.value) :=
      reassigned_write (hpresent w (.head _)) (hW w (.head _)) w.value
    exact hstep.trans (ih hrest fun u hu => hW u (.tail _ hu))

/-- How scoring may change the outcome variables: the missing declared ones are created at the end,
and declared targets may hold something else. -/
def Framed (ds : List OutcomeDeclaration) (targets : List String) (old new : Store) : Prop :=
  ∃ added, old.Lacks ds added ∧
    Reassigned {x | x ∈ ds.map OutcomeDeclaration.identifier ∧ x ∈ targets}
      (old ++ added.map OutcomeDeclaration.toVariable) new

theorem framed_writeAll {ds : List OutcomeDeclaration} {targets : List String} (old : Store)
    {s : Scope} (hs : ∀ x d, s.outcome? x = some d → d ∈ ds) {ws : List Write}
    (hws : s.Permits {x | x ∈ targets} ws) :
    Framed ds targets old ((old.ensureAll ds).writeAll ws) := by
  obtain ⟨added, hadded, hall⟩ := old.exists_lacks ds
  have hdeclared : ∀ w ∈ ws, w.declaration ∈ ds := fun w hw => hs _ _ (hws w hw).2
  have hpresent : ∀ w ∈ ws, (Variable.find? (old.ensureAll ds) w.target).isSome = true :=
    fun w hw => isSome_find?_ensureAll (hdeclared w hw)
  refine ⟨added, hadded, ?_⟩
  rw [← hall]
  apply reassigned_writeAll hpresent
  intro w hw
  exact ⟨List.mem_map_of_mem (hdeclared w hw), (hws w hw).1⟩

end Store

namespace Scope

theorem mem_of_outcome?_item {s : Scope} {item : Item} {responses : List Variable}
    (hs : s.subject = .item item responses) {x : String} {d : OutcomeDeclaration}
    (h : s.outcome? x = some d) : d ∈ item.outcomes := by
  rw [outcome?, hs] at h
  exact List.mem_of_find?_eq_some h

theorem mem_of_outcome?_test {s : Scope} {test : Test} {table : OutcomeTable}
    (hs : s.subject = .test test table) {x : String} {d : OutcomeDeclaration}
    (h : s.outcome? x = some d) : d ∈ test.outcomes := by
  rw [outcome?, hs] at h
  exact List.mem_of_find?_eq_some h

/-- A store with a variable for each outcome that the rules may write. -/
def Prepared (s : Scope) (store : Store) : Prop :=
  ∀ x d, s.outcome? x = some d → (Variable.find? store x).isSome = true

theorem prepared_ensureAll {s : Scope} {ds : List OutcomeDeclaration}
    (hs : ∀ x d, s.outcome? x = some d → d ∈ ds) (old : Store) : s.Prepared (old.ensureAll ds) := by
  intro x d hd
  rw [← outcome?_identifier hd]
  exact Store.isSome_find?_ensureAll (hs x d hd)

theorem Prepared.executeAll {s : Scope} {store : Store} (h : s.Prepared store)
    (nodes : List Node) : s.Prepared (s.executeAll nodes store).value :=
  fun x d hd => (s.stable_isSome_find? x).executeAll nodes (h x d hd)

theorem Prepared.isSome_find?_executeAll {s : Scope} {store : Store} (h : s.Prepared store)
    (nodes : List Node) (x : String) :
    (Variable.find? (s.executeAll nodes store).value x).isSome =
      (Variable.find? store x).isSome := by
  cases hx : Variable.find? store x with
  | some v =>
    have hsome : (Variable.find? store x).isSome = true := by rw [hx]; rfl
    exact (s.stable_isSome_find? x).executeAll nodes hsome
  | none =>
    obtain ⟨ws, log, hws, hrun⟩ := s.exists_writes (fun n _ => n.within_univ) store
    have hother : ∀ w ∈ ws, w.target ≠ x := by
      intro w hw hwx
      have hsome := h w.target w.declaration (hws w hw).2
      rw [hwx, hx] at hsome
      cases hsome
    rw [hrun, Store.find?_writeAll_of_not_mem hother, hx]

end Scope

namespace Environment

variable (env : Environment)

theorem framed_scoreItem (item : Item) (result : String) (r : ItemResult) :
    Store.Framed item.outcomes (Node.targetsBelow item.processing) r.outcomes
      (env.scoreItem item result r).value.outcomes := by
  obtain ⟨ws, log, hws, hrun⟩ := (env.itemScope item r.responses result).exists_writes
    (Node.within_targetsBelow item.processing) (r.outcomes.ensureAll item.outcomes)
  rw [env.scoreItem_of_executeAll hrun]
  exact Store.framed_writeAll r.outcomes (fun _ _ => Scope.mem_of_outcome?_item rfl) hws

theorem framed_scoreTestResult (test : Test) (itemResults : List ItemResult) (result : String)
    (r : TestResult) :
    Store.Framed test.outcomes (Node.targetsBelow test.processing) r.outcomes
      (env.scoreTestResult test itemResults result r).value.outcomes := by
  obtain ⟨ws, log, hws, hrun⟩ := (env.testScope test itemResults result).exists_writes
    (Node.within_targetsBelow test.processing) (r.outcomes.ensureAll test.outcomes)
  rw [env.scoreTestResult_of_executeAll hrun]
  exact Store.framed_writeAll r.outcomes (fun _ _ => Scope.mem_of_outcome?_test rfl) hws

/-- What scoring an item or a test may change, whatever the rules are: the outcome variables of the
one result that it scores, within their frame. -/
theorem scoring_frame :
    (∀ (item : Item) (result : String) (r : ItemResult),
      let scored := (env.scoreItem item result r).value
      scored.identifier = r.identifier ∧ scored.responses = r.responses ∧
        Store.Framed item.outcomes (Node.targetsBelow item.processing) r.outcomes
          scored.outcomes) ∧
    ∀ (test : Test) (result : AssessmentResult),
      let scored := (env.scoreTest test result).value
      scored.identifier = result.identifier ∧ scored.itemResults = result.itemResults ∧
      ∃ before r r' after, scored.testResults = before ++ r' :: after ∧
        (∀ x ∈ before, x.identifier ≠ test.identifier) ∧
        (result.testResults = before ++ r :: after ∨
          r = { identifier := test.identifier } ∧ result.testResults = before ∧ after = []) ∧
        r.identifier = test.identifier ∧ r'.identifier = test.identifier ∧
        Store.Framed test.outcomes (Node.targetsBelow test.processing) r.outcomes r'.outcomes := by
  refine ⟨fun item result r => ⟨rfl, rfl, env.framed_scoreItem item result r⟩, ?_⟩
  intro test result scored
  let r := startingResult test.identifier result.testResults
  have hr : r.identifier = test.identifier := identifier_startingResult _ _
  obtain ⟨before, after, hbefore, hplace, hchange⟩ :=
    exists_place test.identifier result.testResults
  have hscored : scored.testResults =
      before ++ (env.scoreTestResult test result.itemResults result.identifier r).value :: after :=
    congrArg Logged.value (hchange _)
  refine ⟨rfl, rfl, before, r, _, after, hscored, hbefore, hplace, hr, hr, ?_⟩
  exact env.framed_scoreTestResult test result.itemResults result.identifier r

end Environment

end Rubric
