import Mathlib.Data.List.Nodup
import Rubric.Proofs.Execution

namespace Rubric

theorem find?_key_eq_some_iff {α : Type} {key : α → String} {xs : List α}
    (h : (xs.map key).Nodup) {k : String} {x : α} :
    (xs.find? fun x => key x == k) = some x ↔ x ∈ xs ∧ key x = k := by
  constructor
  · intro hfind
    exact ⟨List.mem_of_find?_eq_some hfind, by simpa using List.find?_some hfind⟩
  · rintro ⟨hx, rfl⟩
    have hsome : (xs.find? fun y => key y == key x).isSome = true := by
      rw [List.find?_isSome]
      exact ⟨x, hx, beq_self_eq_true _⟩
    obtain ⟨y, hy⟩ := Option.isSome_iff_exists.1 hsome
    have hkey : key y = key x := by simpa using List.find?_some hy
    rw [hy, List.inj_on_of_nodup_map h (List.mem_of_find?_eq_some hy) hx hkey]

theorem find?_key_eq_of_perm {α : Type} {key : α → String} {xs ys : List α} (hperm : xs.Perm ys)
    (hnodup : (xs.map key).Nodup) (k : String) :
    (xs.find? fun x => key x == k) = ys.find? fun x => key x == k := by
  have hnodup' : (ys.map key).Nodup := (hperm.map key).nodup_iff.1 hnodup
  ext x
  rw [find?_key_eq_some_iff hnodup, find?_key_eq_some_iff hnodup', hperm.mem_iff]

theorem find?_updateFirst {α : Type} {key : α → String} {f : α → α}
    (hf : ∀ x, key (f x) = key x) (k other : String) (xs : List α) :
    (updateFirst (fun x => key x == k) f xs).find? (fun x => key x == other) =
      if k = other then (xs.find? fun x => key x == other).map f
      else xs.find? fun x => key x == other := by
  induction xs with
  | nil => simp [updateFirst]
  | cons x xs ih =>
    by_cases hk : key x = k
    · by_cases ho : k = other <;> simp [updateFirst, hf, hk, ho]
    · by_cases ho : k = other
      · have hne : (key x == other) = false := by simpa [← ho] using hk
        simp only [updateFirst, beq_iff_eq, hk, ↓reduceIte, List.find?_cons, hne, ih]
      · simp only [updateFirst, beq_iff_eq, hk, ↓reduceIte, List.find?_cons, ih, if_neg ho]

theorem getElem?_updateFirst {α : Type} {key : α → String} {f : α → α} (k : String) (xs : List α)
    (i : Nat) :
    (updateFirst (fun x => key x == k) f xs)[i]? = xs[i]?.map fun x =>
      if key x = k ∧ k ∉ (xs.map key).take i then f x else x := by
  induction xs generalizing i with
  | nil => simp [updateFirst]
  | cons x xs ih =>
    by_cases hk : key x = k
    · cases i <;> simp [updateFirst, hk]
    · have hne : k ≠ key x := fun h => hk h.symm
      cases i <;> simp [updateFirst, hk, hne, ih]

namespace Environment

variable {env : Environment}

@[simp]
theorem identifier_scoreItem (item : Item) (result : String) (r : ItemResult) :
    (env.scoreItem item result r).value.identifier = r.identifier := rfl

section changeTestResult

variable {identifier : String} {f : TestResult → Logged TestResult} {rs : List TestResult}

/-- The test result that a test is scored in: the recorded one, else a new one. -/
def startingResult (identifier : String) (rs : List TestResult) : TestResult :=
  (rs.find? fun r => r.identifier == identifier).getD { identifier }

theorem changeTestResult_of_not_mem (h : ∀ r ∈ rs, r.identifier ≠ identifier) :
    changeTestResult identifier f rs = (rs ++ [·]) <$> f { identifier } := by
  induction rs with
  | nil => rfl
  | cons r rs ih =>
    have hr : r.identifier ≠ identifier := h r (.head _)
    rw [changeTestResult, if_neg hr, ih fun x hx => h x (.tail _ hx)]
    ext1 <;> simp

theorem changeTestResult_append {before after : List TestResult} {r : TestResult}
    (hbefore : ∀ x ∈ before, x.identifier ≠ identifier) (hr : r.identifier = identifier) :
    changeTestResult identifier f (before ++ r :: after) = (before ++ · :: after) <$> f r := by
  induction before with
  | nil =>
    rw [List.nil_append, changeTestResult, if_pos hr]
    rfl
  | cons x before ih =>
    have hx : x.identifier ≠ identifier := hbefore x (.head _)
    rw [List.cons_append, changeTestResult, if_neg hx, ih fun y hy => hbefore y (.tail _ hy)]
    ext1 <;> simp

/-- Where the result of a test is placed: at the first result of its identifier, or at the end. -/
theorem exists_place (identifier : String) (rs : List TestResult) :
    ∃ before after, (∀ x ∈ before, x.identifier ≠ identifier) ∧
      (rs = before ++ startingResult identifier rs :: after ∨
        startingResult identifier rs = { identifier } ∧ rs = before ∧ after = []) ∧
      ∀ f, changeTestResult identifier f rs =
        (before ++ · :: after) <$> f (startingResult identifier rs) := by
  cases hfind : rs.find? fun r => r.identifier == identifier with
  | none =>
    have hnone : ∀ x ∈ rs, x.identifier ≠ identifier := by simpa using hfind
    have hstart : startingResult identifier rs = { identifier } := by
      rw [startingResult, hfind, Option.getD_none]
    refine ⟨rs, [], hnone, .inr ⟨hstart, rfl, rfl⟩, fun f => ?_⟩
    rw [hstart, changeTestResult_of_not_mem hnone]
  | some r =>
    obtain ⟨hr, before, after, hsplit, hbefore⟩ := List.find?_eq_some_iff_append.1 hfind
    have hstart : startingResult identifier rs = r := by
      rw [startingResult, hfind, Option.getD_some]
    have hbefore' : ∀ x ∈ before, x.identifier ≠ identifier := by simpa using hbefore
    refine ⟨before, after, hbefore', .inl (hstart ▸ hsplit), fun f => ?_⟩
    rw [hstart, hsplit, changeTestResult_append hbefore' (by simpa using hr)]

theorem identifier_startingResult (identifier : String) (rs : List TestResult) :
    (startingResult identifier rs).identifier = identifier := by
  unfold startingResult
  cases hfind : rs.find? fun r => r.identifier == identifier with
  | none => rfl
  | some r => simpa using List.find?_some hfind

theorem find?_changeTestResult (hf : ∀ r, (f r).value.identifier = r.identifier)
    (rs : List TestResult) :
    ((changeTestResult identifier f rs).value.find? fun r => r.identifier == identifier) =
      some (f (startingResult identifier rs)).value := by
  obtain ⟨before, after, hbefore, -, hchange⟩ := exists_place identifier rs
  have hnone : (before.find? fun r => r.identifier == identifier) = none := by simpa using hbefore
  have hstart := (hf _).trans (identifier_startingResult identifier rs)
  rw [hchange, Logged.value_map, List.find?_append, hnone, Option.none_or, List.find?_cons, hstart,
    beq_self_eq_true]

theorem value_changeTestResult_congr {g : TestResult → Logged TestResult}
    (h : (f (startingResult identifier rs)).value = (g (startingResult identifier rs)).value) :
    (changeTestResult identifier f rs).value = (changeTestResult identifier g rs).value := by
  obtain ⟨before, after, -, -, hchange⟩ := exists_place identifier rs
  rw [hchange, hchange, Logged.value_map, Logged.value_map, h]

theorem log_changeTestResult (rs : List TestResult) :
    (changeTestResult identifier f rs).log = (f (startingResult identifier rs)).log := by
  obtain ⟨before, after, -, -, hchange⟩ := exists_place identifier rs
  rw [hchange, Logged.log_map]

end changeTestResult

theorem testResult?_scoreTest (test : Test) (result : AssessmentResult) :
    (env.scoreTest test result).value.testResult? test.identifier =
      some (env.scoreTestResult test result.itemResults result.identifier
        (startingResult test.identifier result.testResults)).value :=
  find?_changeTestResult (fun _ => rfl) result.testResults

theorem log_scoreTest (test : Test) (result : AssessmentResult) :
    (env.scoreTest test result).log =
      (env.scoreTestResult test result.itemResults result.identifier
        (startingResult test.identifier result.testResults)).log := by
  simp [scoreTest, log_changeTestResult]

@[simp]
theorem itemResults_scoreTest (test : Test) (result : AssessmentResult) :
    (env.scoreTest test result).value.itemResults = result.itemResults := rfl

theorem value_changeItemResult (identifier : String) (f : ItemResult → Logged ItemResult)
    (missing : Event) (rs : List ItemResult) :
    (changeItemResult identifier f missing rs).value =
      updateFirst (fun r => r.identifier == identifier) (fun r => (f r).value) rs := by
  induction rs with
  | nil => rfl
  | cons r rs ih =>
    by_cases hr : r.identifier = identifier
    · simp [changeItemResult, updateFirst, hr]
    · simpa [changeItemResult, updateFirst, hr] using ih

theorem log_changeItemResult (identifier : String) (f : ItemResult → Logged ItemResult)
    (missing : Event) (rs : List ItemResult) :
    (changeItemResult identifier f missing rs).log =
      ((rs.find? fun r => r.identifier == identifier).map fun r => (f r).log).getD [missing] := by
  induction rs with
  | nil => rfl
  | cons r rs ih =>
    by_cases hr : r.identifier = identifier
    · simp [changeItemResult, hr]
    · simpa [changeItemResult, hr] using ih

theorem itemResults_scoreItemIn (item : Item) (result : AssessmentResult) :
    (env.scoreItemIn item result).value.itemResults =
      updateFirst (fun r => r.identifier == item.identifier)
        (fun r => (env.scoreItem item result.identifier r).value) result.itemResults :=
  value_changeItemResult ..

theorem itemResult?_scoreItemIn (item : Item) (result : AssessmentResult) (identifier : String) :
    (env.scoreItemIn item result).value.itemResult? identifier =
      if item.identifier = identifier then
        (result.itemResult? identifier).map fun r =>
          (env.scoreItem item result.identifier r).value
      else result.itemResult? identifier := by
  simp only [AssessmentResult.itemResult?, itemResults_scoreItemIn]
  apply find?_updateFirst
  intro r
  exact identifier_scoreItem item result.identifier r

end Environment

end Rubric
