import Rubric.Proofs.Lookups

namespace Rubric

namespace Environment

variable (env : Environment)

/-- An item result put through the item of its identifier, if there is one. -/
def scoredBy (items : List Item) (result : String) (r : ItemResult) : ItemResult :=
  ((items.find? fun item => item.identifier == r.identifier).map
    fun item => (env.scoreItem item result r).value).getD r

/-- What scoring an item puts on record: the record of its rules, or a remark that nothing is
recorded for the item. -/
def itemLog (item : Item) (result : AssessmentResult) : Log :=
  ((result.itemResult? item.identifier).map
    fun r => (env.scoreItem item result.identifier r).log).getD
      [.problem (label item.identifier result.identifier) .itemResultMissing]

variable {env} {items : List Item} {item : Item}

theorem scoredBy_cons (result : String) (r : ItemResult) :
    env.scoredBy (item :: items) result r =
      if item.identifier = r.identifier then (env.scoreItem item result r).value
      else env.scoredBy items result r := by
  by_cases h : item.identifier = r.identifier <;> simp [scoredBy, h]

theorem scoredBy_of_not_mem {result : String} {r : ItemResult}
    (h : r.identifier ∉ items.map Item.identifier) : env.scoredBy items result r = r := by
  have hnone : (items.find? fun item => item.identifier == r.identifier) = none := by
    rw [List.find?_eq_none]
    intro item hitem heq
    exact h (List.mem_map.2 ⟨item, hitem, by simpa using heq⟩)
  rw [scoredBy, hnone, Option.map_none, Option.getD_none]

theorem map_identifier_scoreItemIn (item : Item) (result : AssessmentResult) :
    (env.scoreItemIn item result).value.itemResults.map ItemResult.identifier =
      result.itemResults.map ItemResult.identifier := by
  rw [itemResults_scoreItemIn]
  apply List.ext_getElem?
  intro i
  rw [List.getElem?_map, List.getElem?_map, getElem?_updateFirst]
  cases result.itemResults[i]? with
  | none => rfl
  | some r =>
    rw [Option.map_some, Option.map_some, Option.map_some]
    split <;> rfl

theorem log_scoreItemIn (item : Item) (result : AssessmentResult) :
    (env.scoreItemIn item result).log = env.itemLog item result := by
  simp only [scoreItemIn, Logged.log_bind, Logged.log_pure, List.append_nil, log_changeItemResult]
  rfl

theorem itemLog_scoreItemIn {other : Item} (h : item.identifier ≠ other.identifier)
    (result : AssessmentResult) :
    env.itemLog other (env.scoreItemIn item result).value = env.itemLog other result := by
  unfold itemLog
  rw [itemResult?_scoreItemIn, if_neg h]
  rfl

theorem log_scoreItems (h : (items.map Item.identifier).Nodup) (result : AssessmentResult) :
    (env.scoreItems items result).log = items.flatMap fun item => env.itemLog item result := by
  induction items generalizing result with
  | nil => rfl
  | cons item items ih =>
    obtain ⟨hitem, hitems⟩ := List.nodup_cons.1 h
    have hrest : ∀ other ∈ items,
        env.itemLog other (env.scoreItemIn item result).value = env.itemLog other result := by
      intro other hother
      apply itemLog_scoreItemIn
      intro heq
      exact hitem (heq ▸ List.mem_map_of_mem hother)
    rw [scoreItems, Logged.log_bind, ih hitems, log_scoreItemIn, List.flatMap_cons,
      List.flatMap_congr hrest]

theorem itemResults_scoreItems (h : (items.map Item.identifier).Nodup) (result : AssessmentResult)
    (i : Nat) :
    (env.scoreItems items result).value.itemResults[i]? = result.itemResults[i]?.map fun r =>
      if r.identifier ∈ (result.itemResults.map ItemResult.identifier).take i then r
      else env.scoredBy items result.identifier r := by
  induction items generalizing result with
  | nil => simp [scoreItems, scoredBy]
  | cons item items ih =>
    obtain ⟨hitem, hitems⟩ := List.nodup_cons.1 h
    have hid : (env.scoreItemIn item result).value.identifier = result.identifier := rfl
    rw [scoreItems, Logged.value_bind, ih hitems, map_identifier_scoreItemIn, hid,
      itemResults_scoreItemIn, getElem?_updateFirst, Option.map_map]
    congr 1
    funext r
    simp only [Function.comp_apply, scoredBy_cons]
    by_cases hr : r.identifier = item.identifier
    · -- No later item has the identifier, so what this one leaves is not scored again.
      by_cases hearlier : item.identifier ∈ (result.itemResults.map ItemResult.identifier).take i
      · simp [hr, hearlier]
      · have hscored : (env.scoreItem item result.identifier r).value.identifier ∉
            items.map Item.identifier := by
          rw [identifier_scoreItem, hr]
          exact hitem
        simp [hr, hearlier, scoredBy_of_not_mem hscored]
    · have hr' : item.identifier ≠ r.identifier := fun heq => hr heq.symm
      simp [hr, hr']

theorem value_scoreItems (items : List Item) (result : AssessmentResult) :
    (env.scoreItems items result).value =
      { result with itemResults := (env.scoreItems items result).value.itemResults } := by
  induction items generalizing result with
  | nil => rfl
  | cons item items ih => exact ih (env.scoreItemIn item result).value

theorem map_identifier_scoreItems (items : List Item) (result : AssessmentResult) :
    (env.scoreItems items result).value.itemResults.map ItemResult.identifier =
      result.itemResults.map ItemResult.identifier := by
  induction items generalizing result with
  | nil => rfl
  | cons item items ih => exact (ih _).trans (map_identifier_scoreItemIn item result)

theorem scoredBy_perm {items' : List Item} (h : items'.Perm items)
    (hnodup : (items.map Item.identifier).Nodup) (result : String) (r : ItemResult) :
    env.scoredBy items' result r = env.scoredBy items result r := by
  have hnodup' : (items'.map Item.identifier).Nodup := (h.map _).nodup_iff.2 hnodup
  rw [scoredBy, scoredBy, find?_key_eq_of_perm h hnodup']

theorem value_scoreItems_perm {items' : List Item} (h : items'.Perm items)
    (hnodup : (items.map Item.identifier).Nodup) (result : AssessmentResult) :
    (env.scoreItems items' result).value = (env.scoreItems items result).value := by
  have hnodup' : (items'.map Item.identifier).Nodup := (h.map _).nodup_iff.2 hnodup
  have hresults : (env.scoreItems items' result).value.itemResults =
      (env.scoreItems items result).value.itemResults := by
    apply List.ext_getElem?
    intro i
    simp only [itemResults_scoreItems hnodup', itemResults_scoreItems hnodup,
      scoredBy_perm h hnodup]
  rw [value_scoreItems items', value_scoreItems items, hresults]

end Environment

namespace Engine

theorem build_eq_ok_iff {input : EngineInput} {engine : Engine} :
    build input = .ok engine ↔ input.config.validate = .ok () ∧
      (input.items.map Item.identifier).Nodup ∧ engine = assemble input := by
  have hrepeated := @firstRepeated_eq_none_iff [] (input.items.map Item.identifier)
  simp only [List.not_mem_nil, not_false_eq_true, implies_true, and_true] at hrepeated
  rw [← hrepeated]
  unfold build
  cases input.config.validate with
  | error e => simp [bind, Except.bind]
  | ok u =>
    cases firstRepeated [] (input.items.map Item.identifier) with
    | none => simp [bind, Except.bind, pure, Except.pure, eq_comm]
    | some identifier => simp [bind, Except.bind, throw, throwThe, MonadExceptOf.throw]

theorem score_responses (engine : Engine) (result : AssessmentResult) :
    engine.score .responses result = engine.environment.scoreItems engine.items result := by
  simp [score, Stage.includesResponses, Stage.includesOutcomes]

theorem scoreResult_eq (engine : Engine) (stage : Stage) (result : AssessmentResult) :
    engine.scoreResult stage result =
      (engine.checkInputs stage).map fun _ => engine.score stage result := by
  unfold scoreResult
  cases engine.checkInputs stage <;> rfl

/-- Engines that have the same items in some order and find the same operators score alike. -/
theorem scoreResult_perm {engine engine' : Engine} (h : engine'.items.Perm engine.items)
    (hnodup : (engine.items.map Item.identifier).Nodup) (htest : engine'.test = engine.test)
    (hsettings : engine.environment.SameSettings engine'.environment) (stage : Stage)
    (result : AssessmentResult) :
    (engine'.scoreResult stage result).map Logged.value =
      (engine.scoreResult stage result).map Logged.value := by
  have hempty : engine'.items.isEmpty = engine.items.isEmpty := by
    rw [Bool.eq_iff_iff, List.isEmpty_iff, List.isEmpty_iff, ← List.length_eq_zero_iff, h.length_eq,
      List.length_eq_zero_iff]
  have hcheck : engine'.checkInputs stage = engine.checkInputs stage := by
    simp only [checkInputs, hempty, htest]
  have hitems : (engine'.environment.scoreItems engine'.items result).value =
      (engine.environment.scoreItems engine.items result).value := by
    rw [hsettings.scoreItems, Environment.value_scoreItems_perm h hnodup]
  have hscore : (engine'.score stage result).value = (engine.score stage result).value := by
    have htests := funext fun test => funext (hsettings.scoreTest test)
    unfold score
    rw [htest, htests]
    cases stage.includesResponses with
    | false => simp only [Bool.false_eq_true, ↓reduceIte]
    | true => simp only [↓reduceIte, Logged.value_bind, hitems]
  rw [scoreResult_eq, scoreResult_eq, hcheck]
  cases engine.checkInputs stage with
  | error e => simp only [Except.map]
  | ok u => simp only [Except.map, hscore]

/-- Response processing scores every first item result of an item's identifier with that item and
leaves the others as they are; it records what each item does, in the order of the items, and that
order has no influence on the result. An engine made from the items in another order may also go
through its operators in another order, provided that no two of them share a local name. -/
theorem scoreResult_item_by_item {input : EngineInput} {engine : Engine}
    (hbuilt : build input = .ok engine) (hitems : engine.items ≠ []) (result : AssessmentResult) :
    let identifiers := result.itemResults.map ItemResult.identifier
    (∃ run, engine.scoreResult .responses result = .ok run ∧
      run.value.identifier = result.identifier ∧ run.value.testResults = result.testResults ∧
      run.value.itemResults.map ItemResult.identifier = identifiers ∧
      (∀ i r item, result.itemResults[i]? = some r → item ∈ engine.items →
        item.identifier = r.identifier → r.identifier ∉ identifiers.take i →
          run.value.itemResults[i]? =
            some (engine.environment.scoreItem item result.identifier r).value) ∧
      (∀ i r, result.itemResults[i]? = some r →
        r.identifier ∉ engine.items.map Item.identifier ∨ r.identifier ∈ identifiers.take i →
          run.value.itemResults[i]? = some r) ∧
      run.log = engine.items.flatMap fun item => engine.environment.itemLog item result) ∧
    ∀ (items : List Item) (arrangement : Arrangement), items.Perm input.items →
      arrangement = input.arrangement ∨ engine.environment.registry.Unambiguous →
        ∃ engine', build { input with items, arrangement } = .ok engine' ∧ engine'.items = items ∧
          ∀ stage, (engine'.scoreResult stage result).map Logged.value =
            (engine.scoreResult stage result).map Logged.value := by
  intro identifiers
  obtain ⟨hvalid, hnodup, hengine⟩ := build_eq_ok_iff.1 hbuilt
  have hsame : engine.items = input.items := by
    rw [hengine]
    rfl
  rw [← hsame] at hnodup
  have hcheck : engine.checkInputs .responses = .ok () := by
    have hnonempty : engine.items.isEmpty = false := by simpa using hitems
    simp [checkInputs, Stage.includesOutcomes, hnonempty]
  have hrun : engine.scoreResult .responses result =
      .ok (engine.environment.scoreItems engine.items result) := by
    rw [scoreResult_eq, hcheck, score_responses]
    rfl
  refine ⟨⟨_, hrun, ?_, ?_, ?_, ?_, ?_, ?_⟩, ?_⟩
  · rw [Environment.value_scoreItems]
  · rw [Environment.value_scoreItems]
  · exact Environment.map_identifier_scoreItems engine.items result
  · intro i r item hr hitem hid hfirst
    have hfound := (find?_key_eq_some_iff hnodup).2 ⟨hitem, hid⟩
    rw [Environment.itemResults_scoreItems hnodup, hr, Option.map_some, if_neg hfirst,
      Environment.scoredBy, hfound, Option.map_some, Option.getD_some]
  · intro i r hr hkept
    rw [Environment.itemResults_scoreItems hnodup, hr, Option.map_some]
    split
    · rfl
    · next hfirst => rw [Environment.scoredBy_of_not_mem (hkept.resolve_right hfirst)]
  · exact Environment.log_scoreItems hnodup result
  · intro items arrangement hperm hoperators
    have hnodup' : (items.map Item.identifier).Nodup :=
      (hperm.map _).nodup_iff.2 (hsame ▸ hnodup)
    let other : EngineInput := { input with items, arrangement }
    rw [hengine] at hoperators hnodup ⊢
    have hsettings := @sameSettings_of_assemble input other rfl rfl rfl hoperators
    refine ⟨assemble other, build_eq_ok_iff.2 ⟨hvalid, hnodup', rfl⟩, rfl, fun stage => ?_⟩
    exact @scoreResult_perm (assemble input) (assemble other) hperm hnodup rfl hsettings stage
      result

/-- An item that scores what was answered. -/
def echoing (identifier : String) : Item where
  identifier
  outcomes := [.number "SCORE"]
  processing := some {
    name := "responseProcessing"
    children := [.assigning "SCORE" (.reading "RESPONSE")] }

theorem echoes_scored_in_any_order :
    let input : EngineInput := { items := [echoing "A", echoing "B"] }
    let answered (identifier response : String) : ItemResult :=
      { identifier, responses := [.single "RESPONSE" .float response] }
    let result : AssessmentResult :=
      { identifier := "R1"
        itemResults := [answered "X" "1", answered "A" "2", answered "A" "3"] }
    ∃ engine engine' run, build input = .ok engine ∧
      build { input with items := [echoing "B", echoing "A"], arrangement := .reversed } =
        .ok engine' ∧
      engine.scoreResult .responses result = .ok run ∧
      run.value.itemResults = [answered "X" "1",
        { answered "A" "2" with outcomes := [.single "SCORE" .float "2"] }, answered "A" "3"] ∧
      run.log = [.problem "B - R1" .itemResultMissing] ∧
      (engine'.scoreResult .responses result).map Logged.value = .ok run.value := by
  intro input answered result
  have hbuilt : build input = .ok (assemble input) :=
    build_eq_ok_iff.2 ⟨rfl, by decide +kernel, rfl⟩
  have hnonempty : (assemble input).items ≠ [] := List.cons_ne_nil _ _
  obtain ⟨⟨run, hrun, -, -, -, -, -, -⟩, hperm⟩ :=
    scoreResult_item_by_item hbuilt hnonempty result
  obtain ⟨engine', hbuilt', -, hsame⟩ := hperm [echoing "B", echoing "A"] .reversed
    (List.Perm.swap _ _ _) (.inr (unambiguous_assemble rfl))
  obtain rfl : (assemble input).score .responses result = run := Except.ok.inj hrun
  refine ⟨_, engine', _, hbuilt, hbuilt', hrun, by decide +kernel, by decide +kernel, ?_⟩
  rw [hsame, hrun]
  rfl

end Engine

end Rubric
