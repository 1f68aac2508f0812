import Rubric.Scope

namespace Rubric

/-- The outcome variables that item results record under a key, in document order. -/
def recordedUnder (results : List ItemResult) (key : String) : List Variable :=
  results.flatMap fun r => r.outcomes.filter fun v => outcomeKey r.identifier v.identifier == key

theorem OutcomeTable.find?_eq_getLast? (table : OutcomeTable) (key : String) :
    table.find? key = (((table.filter fun e => e.1 == key).map Prod.snd).getLast?) := by
  rw [find?, ← List.head?_filter, List.filter_reverse, List.head?_reverse, List.getLast?_map]

theorem OutcomeTable.find?_ofResults (results : List ItemResult) (key : String) :
    (ofResults results).find? key = (recordedUnder results key).getLast? := by
  have hlist : ((ofResults results).filter fun e => e.1 == key).map Prod.snd =
      recordedUnder results key := by
    induction results with
    | nil => rfl
    | cons r rs ih =>
      simp only [ofResults, recordedUnder, List.flatMap_cons, List.filter_append,
        List.map_append] at ih ⊢
      rw [ih, List.filter_map, List.map_map]
      congr 1
      exact List.map_id _
  rw [find?_eq_getLast?, hlist]

theorem Value.toOption_asNumber_named (v : Value) (identifier : String) :
    (v.named identifier).asNumber.toOption = v.asNumber.toOption := by
  obtain ⟨baseType, cardinality, scalar, members, identifier'⟩ := v
  cases scalar <;> rfl

theorem Value.asNumber_number_named (x : Float) (identifier : String) :
    ((Value.number x).named identifier).asNumber = readNumber (Decimal.canonical x) := by
  simp only [asNumber, scalarOrError, number, single, named]
  generalize Decimal.canonical x = text
  unfold readNumber
  rfl

/-- The factor of an item under a weight, by the first reference of the test to the item. -/
def Test.factor? (test : Test) (item weight : String) : Option Float :=
  (test.itemRef? item).bind fun ref => ref.weights.get? weight

def recordedNumber? (results : List ItemResult) (key : String) : Option Float :=
  (recordedUnder results key).getLast?.bind fun v => v.value.asNumber.toOption

/-- A number with a factor, read back from the canonical text of the product. Without a factor the
number stays as it is. -/
def weighed? : Option Float → Float → Option Float
  | none, x => some x
  | some factor, x => (readNumber (Decimal.canonical (x * factor))).toOption

/-- What an item adds to an aggregate; nothing when no number is recorded for it. -/
def Test.share? (test : Test) (results : List ItemResult) (outcome : String)
    (weight : Option String) (ref : ItemRef) : Option Float :=
  (recordedNumber? results (outcomeKey ref.identifier outcome)).bind
    (weighed? (weight.bind (test.factor? ref.identifier)))

/-- What is remarked on an item while an aggregate is formed: that nothing is recorded, that the
item has no such weight, or that what is recorded is no number to be multiplied. -/
def Test.remark? (test : Test) (results : List ItemResult) (outcome : String)
    (weight : Option String) (ref : ItemRef) : Option Problem :=
  let key := outcomeKey ref.identifier outcome
  match (recordedUnder results key).getLast? with
  | none => some (.itemOutcomeMissing .warning key)
  | some v =>
    weight.bind fun weight =>
      match test.factor? ref.identifier weight, (v.value.named key).asNumber with
      | none, _ => some (.weightUndeclared weight key)
      | some _, .ok _ => none
      | some _, .error cause => some (.weightInapplicable weight key cause)

theorem Test.isSome_itemRef? {test : Test} {ref : ItemRef} (h : ref ∈ test.itemRefs) :
    (test.itemRef? ref.identifier).isSome = true := by
  simp only [itemRef?, List.find?_isSome, beq_iff_eq]
  exact ⟨ref, h, rfl⟩

theorem Test.severity_of_remark? {test : Test} {results : List ItemResult} {outcome : String}
    {weight : Option String} {ref : ItemRef} {p : Problem}
    (h : test.remark? results outcome weight ref = some p) : p.severity = .warning := by
  simp only [remark?] at h
  split at h
  · cases h
    rfl
  · obtain ⟨w, -, hw⟩ := Option.bind_eq_some_iff.1 h
    split at hw
    · cases hw
      rfl
    · cases hw
    · cases hw
      rfl

namespace Scope

variable (s : Scope) {test : Test} (results : List ItemResult) (outcome : String)
  (weight : Option String)

theorem toOption_asNumber_weighted (ref : ItemRef) (weight key : String) (value : Value) :
    (s.weighted ref weight key value).value.asNumber.toOption =
      value.asNumber.toOption.bind (weighed? (ref.weights.get? weight)) := by
  unfold weighted
  cases ref.weights.get? weight with
  | none => exact (Option.bind_fun_some _).symm
  | some factor =>
    cases hx : value.asNumber with
    | ok x => simp only [Logged.value_pure, Value.asNumber_number_named, Except.toOption, weighed?,
        Option.bind_some]
    | error cause =>
      simp only [value_fallback, hx]
      exact (Option.bind_none _).symm

theorem itemOutcome?_of_mem {ref : ItemRef} (h : ref ∈ test.itemRefs) :
    let found := s.itemOutcome? test (.ofResults results) ref.identifier outcome weight .warning
    (found.value.bind fun v => v.asNumber.toOption) = test.share? results outcome weight ref ∧
      found.log = (test.remark? results outcome weight ref).toList.map (.problem s.label) := by
  -- The weights are those of the first reference to the item, which need not be `ref`.
  obtain ⟨first, hfirst⟩ := Option.isSome_iff_exists.1 (Test.isSome_itemRef? h)
  have hfactor (w : String) : test.factor? ref.identifier w = first.weights.get? w := by
    rw [Test.factor?, hfirst, Option.bind_some]
  simp only [itemOutcome?, Test.share?, Test.remark?, recordedNumber?, hfirst,
    OutcomeTable.find?_ofResults]
  cases (recordedUnder results (outcomeKey ref.identifier outcome)).getLast? with
  | none => exact ⟨rfl, rfl⟩
  | some v =>
    rw [Option.bind_some, ← v.value.toOption_asNumber_named (outcomeKey ref.identifier outcome)]
    cases weight with
    | none => exact ⟨(Option.bind_fun_some _).symm, rfl⟩
    | some w =>
      simp only [Option.bind_some, Logged.value_map, Logged.log_map, hfactor]
      refine ⟨s.toOption_asNumber_weighted first w _ _, ?_⟩
      unfold weighted
      cases first.weights.get? w with
      | none => rfl
      | some factor =>
        cases (v.value.named (outcomeKey ref.identifier outcome)).asNumber with
        | ok x => rfl
        | error cause => rfl

/-- One item of a sum: its share is added before the others, and its remark comes first. -/
theorem sumOutcomes_cons {ref : ItemRef} (h : ref ∈ test.itemRefs) (refs : List ItemRef)
    (total : Float) :
    ∃ skipped : Log, skipped.diagnostics = [] ∧
      s.sumOutcomes test (.ofResults results) outcome weight total (ref :: refs) =
        let rest := s.sumOutcomes test (.ofResults results) outcome weight
          ((test.share? results outcome weight ref).elim total (total + ·)) refs
        { value := rest.value
          log := (test.remark? results outcome weight ref).toList.map (.problem s.label) ++
            (skipped ++ rest.log) } := by
  obtain ⟨hshare, hremark⟩ := s.itemOutcome?_of_mem results outcome weight h
  rw [← hshare, ← hremark]
  simp only [sumOutcomes]
  cases s.itemOutcome? test (.ofResults results) ref.identifier outcome weight .warning with
  | mk found log =>
    cases found with
    | none => exact ⟨[], rfl, rfl⟩
    | some v =>
      cases hx : v.asNumber with
      | ok x =>
        refine ⟨[], rfl, ?_⟩
        ext1 <;> simp [hx, Except.toOption]
      | error cause =>
        refine ⟨[.skipped ref.identifier cause], rfl, ?_⟩
        ext1 <;> simp [hx, Except.toOption]

theorem value_sumOutcomes {refs : List ItemRef} (h : ∀ ref ∈ refs, ref ∈ test.itemRefs)
    (total : Float) :
    (s.sumOutcomes test (.ofResults results) outcome weight total refs).value =
      (refs.filterMap (test.share? results outcome weight)).foldl (· + ·) total := by
  induction refs generalizing total with
  | nil => rfl
  | cons ref refs ih =>
    obtain ⟨skipped, -, hstep⟩ :=
      s.sumOutcomes_cons results outcome weight (h ref (.head _)) refs total
    rw [hstep]
    simp only [ih fun r hr => h r (.tail _ hr), List.filterMap_cons]
    cases test.share? results outcome weight ref <;> rfl

theorem diagnostics_sumOutcomes {refs : List ItemRef} (h : ∀ ref ∈ refs, ref ∈ test.itemRefs)
    (total : Float) :
    (s.sumOutcomes test (.ofResults results) outcome weight total refs).log.diagnostics =
      (refs.filterMap (test.remark? results outcome weight)).map fun p =>
        ⟨.warning, s!"{s.label}: {p.message}"⟩ := by
  induction refs generalizing total with
  | nil => rfl
  | cons ref refs ih =>
    obtain ⟨skipped, hskipped, hstep⟩ :=
      s.sumOutcomes_cons results outcome weight (h ref (.head _)) refs total
    rw [hstep]
    simp only [Log.diagnostics_append, hskipped, ih fun r hr => h r (.tail _ hr),
      List.filterMap_cons, List.nil_append]
    cases hp : test.remark? results outcome weight ref with
    | none => rfl
    | some p =>
      have hs := Test.severity_of_remark? hp
      simp [Log.diagnostics, Event.diagnostic?, hs]

end Scope

end Rubric
