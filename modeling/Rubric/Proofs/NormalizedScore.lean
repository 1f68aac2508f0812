import Rubric.Package
import Rubric.Proofs.Responses
import Rubric.Proofs.UnitInterval

namespace Rubric

/-- The number reported for an outcome of an item, in the first result of the item. -/
def AssessmentResult.itemNumber? (result : AssessmentResult) (item outcome : String) :
    Option Float := do
  let text ← result.itemScalar? item outcome
  (readNumber text).toOption

theorem AssessmentResult.itemNumber?_of_itemResult? {result : AssessmentResult} {item : String}
    {r : ItemResult} (h : result.itemResult? item = some r) (outcome : String) :
    result.itemNumber? item outcome = Engine.outcomeNumber? r outcome := by
  simp only [itemNumber?, itemScalar?, h, Engine.outcomeNumber?, Option.bind_eq_bind,
    Option.bind_some, Option.bind_assoc]

theorem AssessmentResult.exists_itemResult? {result : AssessmentResult} {identifier : String}
    (h : identifier ∈ result.itemResults.map ItemResult.identifier) :
    ∃ r, result.itemResult? identifier = some r := by
  obtain ⟨r, hr, hid⟩ := List.mem_map.1 h
  rw [← Option.isSome_iff_exists, itemResult?, List.find?_isSome]
  exact ⟨r, hr, beq_iff_eq.2 hid⟩

namespace Environment

variable {env : Environment} {items : List Item}

/-- A lookup after all items are scored finds its first item result scored by the item of the
identifier. -/
theorem itemResult?_scoreItems (h : (items.map Item.identifier).Nodup) (result : AssessmentResult)
    (identifier : String) :
    (env.scoreItems items result).value.itemResult? identifier =
      (result.itemResult? identifier).map (env.scoredBy items result.identifier) := by
  induction items generalizing result with
  | nil =>
    have hid : env.scoredBy [] result.identifier = id := rfl
    rw [hid, Option.map_id]
    rfl
  | cons item items ih =>
    obtain ⟨hitem, hitems⟩ := List.nodup_cons.1 h
    have hsame : (env.scoreItemIn item result).value.identifier = result.identifier := rfl
    rw [scoreItems, Logged.value_bind, ih hitems, hsame, itemResult?_scoreItemIn]
    cases hr : result.itemResult? identifier with
    | none => split <;> rfl
    | some r =>
      have hrid : r.identifier = identifier := by simpa using List.find?_some hr
      by_cases hid : item.identifier = identifier
      · -- No later item has the identifier, so what this one leaves is not scored again.
        have hscored : (env.scoreItem item result.identifier r).value.identifier ∉
            items.map Item.identifier := by
          rw [identifier_scoreItem, hrid, ← hid]
          exact hitem
        rw [if_pos hid, Option.map_some, Option.map_some, Option.map_some, scoredBy_cons,
          if_pos (hid.trans hrid.symm), scoredBy_of_not_mem hscored]
      · have hne : item.identifier ≠ r.identifier := hrid ▸ hid
        rw [if_neg hid, Option.map_some, Option.map_some, scoredBy_cons, if_neg hne]

theorem itemResult?_scoreItems_of_find? (env : Environment)
    (h : (items.map Item.identifier).Nodup) {result : AssessmentResult} {identifier : String}
    {item : Item} {r : ItemResult}
    (hitem : (items.find? fun item => item.identifier == identifier) = some item)
    (hr : result.itemResult? identifier = some r) :
    (env.scoreItems items result).value.itemResult? identifier =
      some (env.scoreItem item result.identifier r).value := by
  have hid : r.identifier = identifier := by simpa using List.find?_some hr
  rw [itemResult?_scoreItems h, hr, Option.map_some, scoredBy, hid, hitem, Option.map_some,
    Option.getD_some]

end Environment

namespace Engine

theorem scoreResult_responses {engine : Engine} (h : engine.items ≠ [])
    (result : AssessmentResult) :
    engine.scoreResult .responses result =
      .ok (engine.environment.scoreItems engine.items result) := by
  have hcheck : engine.checkInputs .responses = .ok () := by
    simp [checkInputs, Stage.includesOutcomes, h]
  rw [scoreResult_eq, hcheck, score_responses]
  rfl

/-- A score as it is compared with the greatest one: below zero it counts as zero. -/
def notNegative (x : Float) : Float :=
  if x > 0.0 then x else 0.0

theorem isFinite_notNegative {x : Float} (h : x.isFinite = true) :
    (notNegative x).isFinite = true := by
  unfold notNegative
  split
  · exact h
  · decide

theorem isFinite_outcomeNumber? (r : ItemResult) (outcome : String) {x : Float}
    (h : x.isFinite = true) : ((outcomeNumber? r outcome).getD x).isFinite = true := by
  cases hnumber : outcomeNumber? r outcome with
  | none => exact h
  | some y =>
    obtain ⟨v, -, hv⟩ := Option.bind_eq_some_iff.1 hnumber
    obtain ⟨text, -, htext⟩ := Option.bind_eq_some_iff.1 hv
    exact isFinite_of_readNumber htext

theorem clampUnit_quotient_mem_unit {score maxScore : Float} (hscore : score.isFinite = true)
    (hmax : maxScore.isFinite = true) (hpositive : ¬ maxScore ≤ 0.0) :
    0.0 ≤ clampUnit (notNegative score / maxScore) ∧
      clampUnit (notNegative score / maxScore) ≤ 1.0 := by
  have hzero : parts 0.0 ≠ .notANumber := parts_ne_notANumber_of_isFinite (by decide)
  have hless : 0.0 < maxScore :=
    (lt_or_le hzero (parts_ne_notANumber_of_isFinite hmax)).resolve_right hpositive
  exact clampUnit_mem_unit (parts_div_ne_notANumber (isFinite_notNegative hscore) hless)

section normalizedScore

variable (engine : Engine) (item : Item) (result : String) (r : ItemResult)

theorem normalizedScore_eq :
    let scored := engine.environment.scoreItem item result r
    let score := notNegative ((outcomeNumber? scored.value "SCORE").getD 0.0)
    let maxScore := (outcomeNumber? scored.value "MAXSCORE").getD 1.0
    engine.normalizedScore item result r =
      if maxScore ≤ 0.0 then
        ⟨(scored.value, 0.0),
          scored.log ++ [.problem (label item.identifier result) (.maxScoreNotPositive maxScore)]⟩
      else ⟨(scored.value, clampUnit (score / maxScore)), scored.log⟩ := by
  intro scored score maxScore
  ext1
  · unfold normalizedScore
    rw [Logged.value_bind]
    change Logged.value (if maxScore ≤ 0.0 then _ else _) = _
    split <;> rfl
  · unfold normalizedScore
    rw [Logged.log_bind]
    change scored.log ++ Logged.log (if maxScore ≤ 0.0 then _ else _) = _
    split
    · rfl
    · exact List.append_nil _

@[simp]
theorem itemResult_normalizedScore :
    (engine.normalizedScore item result r).value.1 =
      (engine.environment.scoreItem item result r).value := by
  rw [normalizedScore_eq]
  split <;> rfl

theorem normalizedScore_mem_unit :
    0.0 ≤ (engine.normalizedScore item result r).value.2 ∧
      (engine.normalizedScore item result r).value.2 ≤ 1.0 := by
  rw [normalizedScore_eq]
  split
  · exact ⟨(by decide : (0.0 : Float) ≤ 0.0), (by decide : (0.0 : Float) ≤ 1.0)⟩
  · next hpositive =>
    have hscore := isFinite_outcomeNumber? (engine.environment.scoreItem item result r).value
      "SCORE" (by decide : (0.0 : Float).isFinite = true)
    have hmax := isFinite_outcomeNumber? (engine.environment.scoreItem item result r).value
      "MAXSCORE" (by decide : (1.0 : Float).isFinite = true)
    exact clampUnit_quotient_mem_unit hscore hmax hpositive

theorem normalizedScore_of_reported {run : AssessmentResult}
    (h : run.itemResult? item.identifier =
      some (engine.environment.scoreItem item result r).value) :
    let rules := engine.environment.scoreItem item result r
    let score := notNegative ((run.itemNumber? item.identifier "SCORE").getD 0.0)
    let maxScore := (run.itemNumber? item.identifier "MAXSCORE").getD 1.0
    engine.normalizedScore item result r =
      if maxScore ≤ 0.0 then
        ⟨(rules.value, 0.0),
          rules.log ++ [.problem (label item.identifier result) (.maxScoreNotPositive maxScore)]⟩
      else ⟨(rules.value, clampUnit (score / maxScore)), rules.log⟩ := by
  simp only [AssessmentResult.itemNumber?_of_itemResult? h]
  exact normalizedScore_eq engine item result r

end normalizedScore

/-- An item of a package scored alone leaves the item result that response processing of all items
leaves first for it, unless the two engines find different operators of one local name. Its score is
read off the numbers reported there: their quotient, moved into the range from zero to one, or zero
and a warning when the greatest score is not positive. -/
theorem normalizedScore_of_scoreResult {package : Package} {config : Config} {identifier : String}
    {result : AssessmentResult} {operators : List CustomOperator} {checker : EquivalenceChecker}
    {single all : Arrangement}
    (hoperators : single = all ∨
      ((Registry.standard checker).registerAll operators).Unambiguous)
    (hdistinct : (package.items.map Item.identifier).Nodup) (hvalid : config.validate = .ok ())
    (hitem : identifier ∈ package.items.map Item.identifier)
    (hresult : identifier ∈ result.itemResults.map ItemResult.identifier) :
    ∃ item r alone whole run,
      (package.items.find? fun item => item.identifier == identifier) = some item ∧
      result.itemResult? identifier = some r ∧
      build { items := [item], operators, checker, config, arrangement := single } = .ok alone ∧
      build {
        items := package.items
        test := package.test
        operators, checker, config
        arrangement := all } = .ok whole ∧
      whole.scoreResult .responses result = .ok run ∧
      let scored := alone.normalizedScore item result.identifier r
      let rules := alone.environment.scoreItem item result.identifier r
      let score := notNegative ((run.value.itemNumber? identifier "SCORE").getD 0.0)
      let maxScore := (run.value.itemNumber? identifier "MAXSCORE").getD 1.0
      run.value.itemResult? identifier = some scored.value.1 ∧
      (maxScore ≤ 0.0 → scored.value.2 = 0.0 ∧
        (Problem.maxScoreNotPositive maxScore).severity = .warning ∧
        scored.log = rules.log ++
          [.problem (label identifier result.identifier) (.maxScoreNotPositive maxScore)]) ∧
      (¬ maxScore ≤ 0.0 → scored.value.2 = clampUnit (score / maxScore) ∧
        scored.log = rules.log) ∧
      0.0 ≤ scored.value.2 ∧ scored.value.2 ≤ 1.0 := by
  obtain ⟨item, hmem, rfl⟩ := List.mem_map.1 hitem
  obtain ⟨r, hr⟩ := AssessmentResult.exists_itemResult? hresult
  have hfound := (find?_key_eq_some_iff hdistinct).2 ⟨hmem, rfl⟩
  let part : EngineInput := { items := [item], operators, checker, config, arrangement := single }
  let full : EngineInput :=
    { items := package.items, test := package.test, operators, checker, config, arrangement := all }
  have halone : build part = .ok (assemble part) :=
    build_eq_ok_iff.2 ⟨hvalid, List.nodup_singleton _, rfl⟩
  have hwhole : build full = .ok (assemble full) := build_eq_ok_iff.2 ⟨hvalid, hdistinct, rfl⟩
  have hrun := @scoreResult_responses (assemble full) (List.ne_nil_of_mem hmem) result
  refine ⟨item, r, _, _, _, hfound, hr, halone, hwhole, hrun, ?_⟩
  intro scored rules score maxScore
  have hsettings := @sameSettings_of_assemble full part rfl rfl rfl hoperators
  have hleft := Environment.itemResult?_scoreItems_of_find? (assemble full).environment hdistinct
    hfound hr
  rw [← hsettings.scoreItem] at hleft
  have hscored := normalizedScore_of_reported _ item result.identifier r hleft
  refine ⟨?_, fun hmax => ?_, fun hmax => ?_, normalizedScore_mem_unit ..⟩
  · rw [itemResult_normalizedScore]
    exact hleft
  · have hzero : scored = _ := hscored.trans (if_pos hmax)
    rw [hzero]
    exact ⟨rfl, rfl, rfl⟩
  · have hquotient : scored = _ := hscored.trans (if_neg hmax)
    rw [hquotient]
    exact ⟨rfl, rfl⟩

/-- An item with a greatest score, scored alone and beside another. -/
theorem echo_scored_alone :
    let package : Package := { items := [echoing "A", echoing "B"] }
    let answered (identifier response : String) : ItemResult :=
      { identifier, responses := [.single "RESPONSE" .float response]
        outcomes := [.single "MAXSCORE" .float "4"] }
    let result : AssessmentResult :=
      { identifier := "R1", itemResults := [answered "A" "1", answered "B" "3", answered "B" "2"] }
    let full : EngineInput := { items := package.items, arrangement := .reversed }
    ∃ alone run, build { items := [echoing "B"] } = .ok alone ∧
      ((build full).bind fun whole => whole.scoreResult .responses result) = .ok run ∧
      run.value.itemResult? "B" =
        some (alone.normalizedScore (echoing "B") "R1" (answered "B" "3")).value.1 ∧
      run.value.itemNumber? "B" "SCORE" = some 3.0 ∧
      (alone.normalizedScore (echoing "B") "R1" (answered "B" "3")).value.2 = 0.75 := by
  intro package answered result full
  obtain ⟨item, r, alone, whole, run, hitem, hr, halone, hwhole, hrun, hleft, -, hquotient, -⟩ :=
    @normalizedScore_of_scoreResult package {} "B" result [] .textual .registered .reversed
      (.inr (Registry.unambiguous_standard .textual)) (by decide +kernel) rfl (by decide +kernel)
      (by decide +kernel)
  obtain rfl : echoing "B" = item := Option.some.inj hitem
  obtain rfl : answered "B" "3" = r := Option.some.inj hr
  obtain rfl : assemble _ = alone := Except.ok.inj halone
  obtain rfl : assemble full = whole := Except.ok.inj hwhole
  obtain rfl : (assemble full).score .responses result = run := Except.ok.inj hrun
  obtain ⟨hscore, -⟩ := hquotient (by decide +kernel)
  refine ⟨_, _, halone, ?_, hleft, by decide +kernel, hscore.trans (by decide +kernel)⟩
  rw [hwhole]
  exact hrun

end Engine

end Rubric
