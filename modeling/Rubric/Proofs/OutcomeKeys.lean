import Rubric.Proofs.Aggregate
import Rubric.Scoring

namespace Rubric

section separator

variable {α : Type} {sep : α} {xs ys xs' ys' : List α}

/-- A list cut at two separators, the second of which lies `rest` beyond the first. -/
theorem middle_of_cuts {rest : List α} (hxs : xs' = xs ++ rest)
    (hys : sep :: ys = rest ++ sep :: ys') :
    (xs = xs' ∧ ys = ys') ∨ ∃ middle, xs' = xs ++ sep :: middle ∧ ys = middle ++ sep :: ys' := by
  cases rest with
  | nil =>
    rw [List.nil_append, List.cons.injEq] at hys
    exact .inl ⟨(hxs.trans (List.append_nil xs)).symm, hys.2⟩
  | cons c middle =>
    rw [List.cons_append, List.cons.injEq] at hys
    obtain ⟨rfl, hys⟩ := hys
    exact .inr ⟨middle, hxs, hys⟩

/-- Lists that are joined with a separator are equal when their parts are, or when one is cut at an
earlier separator than the other. -/
theorem append_separator_eq_iff :
    xs ++ sep :: ys = xs' ++ sep :: ys' ↔
      (xs = xs' ∧ ys = ys') ∨
        (∃ middle, xs' = xs ++ sep :: middle ∧ ys = middle ++ sep :: ys') ∨
          ∃ middle, xs = xs' ++ sep :: middle ∧ ys' = middle ++ sep :: ys := by
  constructor
  · intro h
    rcases List.append_eq_append_iff.1 h with ⟨rest, hxs, hys⟩ | ⟨rest, hxs, hys⟩
    · rcases middle_of_cuts hxs hys with hsame | hmiddle
      · exact .inl hsame
      · exact .inr (.inl hmiddle)
    · rcases middle_of_cuts hxs hys with hsame | hmiddle
      · exact .inl ⟨hsame.1.symm, hsame.2.symm⟩
      · exact .inr (.inr hmiddle)
  · rintro (⟨rfl, rfl⟩ | ⟨middle, rfl, rfl⟩ | ⟨middle, rfl, rfl⟩)
    · rfl
    · rw [List.append_assoc, List.cons_append]
    · rw [List.append_assoc, List.cons_append]

end separator

theorem toList_outcomeKey (item outcome : String) :
    (outcomeKey item outcome).toList = item.toList ++ '.' :: outcome.toList := by
  change (item ++ "." ++ outcome).toList = _
  simp

/-- The identifier of the first item with a dotted rest is that of the second, and the outcome of
the first is that rest, a dot and the outcome of the second. -/
def Extends (item outcome longer shorter : String) : Prop :=
  ∃ middle, longer = outcomeKey item middle ∧ outcome = outcomeKey middle shorter

/-- Two outcomes of different items that share their key. -/
def Overlaps (item outcome item' outcome' : String) : Prop :=
  Extends item outcome item' outcome' ∨ Extends item' outcome' item outcome

variable {item outcome item' outcome' : String}

theorem extends_iff :
    Extends item outcome item' outcome' ↔
      ∃ middle, item'.toList = item.toList ++ '.' :: middle ∧
        outcome.toList = middle ++ '.' :: outcome'.toList := by
  constructor
  · rintro ⟨middle, rfl, rfl⟩
    exact ⟨middle.toList, toList_outcomeKey _ _, toList_outcomeKey _ _⟩
  · rintro ⟨middle, hitem, houtcome⟩
    refine ⟨String.ofList middle, ?_, ?_⟩
    · rw [← String.toList_inj, toList_outcomeKey, String.toList_ofList, hitem]
    · rw [← String.toList_inj, toList_outcomeKey, String.toList_ofList, houtcome]

theorem outcomeKey_eq_iff :
    outcomeKey item outcome = outcomeKey item' outcome' ↔
      (item = item' ∧ outcome = outcome') ∨ Overlaps item outcome item' outcome' := by
  rw [← String.toList_inj, toList_outcomeKey, toList_outcomeKey, append_separator_eq_iff,
    String.toList_inj, String.toList_inj, Overlaps, extends_iff, extends_iff]

theorem Extends.dot_mem (h : Extends item outcome item' outcome') : '.' ∈ outcome.toList := by
  obtain ⟨middle, -, houtcome⟩ := extends_iff.1 h
  rw [houtcome]
  simp

def recordedOutcomes (results : List ItemResult) : List (String × Variable) :=
  results.flatMap fun r => r.outcomes.map fun v => (r.identifier, v)

namespace OutcomeTable

variable {results : List ItemResult} {key : String} {v : Variable}

theorem ofResults_eq_map (results : List ItemResult) :
    ofResults results =
      (recordedOutcomes results).map fun e => (outcomeKey e.1 e.2.identifier, e.2) := by
  simp only [ofResults, recordedOutcomes, List.map_flatMap, List.map_map]
  rfl

/-- A lookup finds the last recorded outcome that has the key, whatever item it belongs to. -/
theorem find?_eq_some_iff_last :
    (ofResults results).find? key = some v ↔
      ∃ before item after, recordedOutcomes results = before ++ (item, v) :: after ∧
        outcomeKey item v.identifier = key ∧
          ∀ e ∈ after, outcomeKey e.1 e.2.identifier ≠ key := by
  rw [find?, ofResults_eq_map, ← List.map_reverse, List.find?_map, Option.map_map,
    Option.map_eq_some_iff]
  constructor
  · rintro ⟨⟨item, w⟩, hfind, rfl⟩
    obtain ⟨hkey, after, before, hsplit, hafter⟩ := List.find?_eq_some_iff_append.1 hfind
    refine ⟨before.reverse, item, after.reverse, ?_, by simpa using hkey, fun e he => ?_⟩
    · rw [← List.reverse_reverse (recordedOutcomes results), hsplit]
      simp
    · simpa using hafter e (List.mem_reverse.1 he)
  · rintro ⟨before, item, after, hsplit, hkey, hafter⟩
    refine ⟨(item, v), List.find?_eq_some_iff_append.2 ⟨by simpa using hkey, ?_⟩, rfl⟩
    refine ⟨after.reverse, before.reverse, by simp [hsplit], fun e he => ?_⟩
    simpa using hafter e (List.mem_reverse.1 he)

end OutcomeTable

theorem not_overlaps_self (item outcome : String) : ¬Overlaps item outcome item outcome := by
  intro h
  have hextends : Extends item outcome item outcome := h.elim id id
  obtain ⟨middle, hitem, -⟩ := extends_iff.1 hextends
  have hlength := congrArg List.length hitem
  rw [List.length_append, List.length_cons] at hlength
  omega

theorem item_eq_of_outcomeKey_eq (h : outcomeKey item outcome = outcomeKey item' outcome) :
    item = item' := by
  rw [← String.toList_inj, toList_outcomeKey, toList_outcomeKey, List.append_cancel_right_eq,
    String.toList_inj] at h
  exact h

theorem eq_or_mem_of_last {α : Type} {P : α → Prop} {before after before' after' : List α}
    {x last : α} (h : before ++ x :: after = before' ++ last :: after')
    (hlast : ∀ y ∈ after', ¬P y) (hx : P x) : x = last ∨ last ∈ after := by
  rcases List.append_eq_append_iff.1 h with ⟨rest, -, hrest⟩ | ⟨rest, -, hrest⟩
  · cases rest with
    | nil => exact .inl (List.cons.inj hrest).1
    | cons c rest =>
      right
      rw [(List.cons.inj hrest).2]
      simp
  · cases rest with
    | nil => exact .inl (List.cons.inj hrest).1.symm
    | cons c rest =>
      have hmem : x ∈ after' := by
        rw [(List.cons.inj hrest).2]
        simp
      exact absurd hx (hlast x hmem)

/-- After every outcome of another item under the key of an outcome, the outcome itself is recorded
once more. -/
def Unshadowed (results : List ItemResult) (item outcome : String) : Prop :=
  ∀ before e after, recordedOutcomes results = before ++ e :: after →
    Overlaps e.1 e.2.identifier item outcome → ∃ v, (item, v) ∈ after ∧ v.identifier = outcome

/-- The variable that is recorded last for an outcome of an item. -/
def LastRecorded (results : List ItemResult) (item outcome : String) (v : Variable) : Prop :=
  ∃ before after, recordedOutcomes results = before ++ (item, v) :: after ∧
    v.identifier = outcome ∧ ∀ w, (item, w) ∈ after → w.identifier ≠ outcome

section lookup

variable {results : List ItemResult} {v : Variable}

theorem unshadowed_of_no_dot (houtcome : '.' ∉ outcome.toList)
    (hrecorded : ∀ e ∈ recordedOutcomes results, '.' ∉ e.2.identifier.toList) :
    Unshadowed results item outcome := by
  rintro before e after hsplit (hlonger | hshorter)
  · have he : e ∈ recordedOutcomes results := by simp [hsplit]
    exact absurd hlonger.dot_mem (hrecorded e he)
  · exact absurd hshorter.dot_mem houtcome

theorem Unshadowed.lastRecorded (h : Unshadowed results item outcome)
    (hfound : (OutcomeTable.ofResults results).find? (outcomeKey item outcome) = some v) :
    LastRecorded results item outcome v := by
  obtain ⟨before, item', after, hsplit, hkey, hafter⟩ :=
    OutcomeTable.find?_eq_some_iff_last.1 hfound
  rcases outcomeKey_eq_iff.1 hkey with ⟨rfl, rfl⟩ | hother
  · refine ⟨before, after, hsplit, rfl, fun w hw hid => ?_⟩
    exact hafter _ hw (by rw [hid])
  · obtain ⟨w, hw, rfl⟩ := h before _ after hsplit hother
    exact absurd rfl (hafter _ hw)

theorem Unshadowed.find?_of_lastRecorded (h : Unshadowed results item outcome)
    (hv : LastRecorded results item outcome v) :
    (OutcomeTable.ofResults results).find? (outcomeKey item outcome) = some v := by
  obtain ⟨before, after, hsplit, rfl, hlast⟩ := hv
  refine OutcomeTable.find?_eq_some_iff_last.2 ⟨before, item, after, hsplit, rfl, fun e he hkey => ?_⟩
  rcases outcomeKey_eq_iff.1 hkey with ⟨hitem, hid⟩ | hother
  · exact hlast e.2 (hitem ▸ he) hid
  · obtain ⟨front, back, rfl⟩ := List.append_of_mem he
    have hsplit' : recordedOutcomes results = (before ++ (item, v) :: front) ++ e :: back := by
      rw [hsplit, List.append_assoc, List.cons_append]
    obtain ⟨w, hw, hid⟩ := h _ e back hsplit' hother
    exact hlast w (List.mem_append_right _ (.tail _ hw)) hid

theorem isSome_find?_of_mem {e : String × Variable} (he : e ∈ recordedOutcomes results) :
    ((OutcomeTable.ofResults results).find? (outcomeKey e.1 e.2.identifier)).isSome = true := by
  rw [OutcomeTable.find?, OutcomeTable.ofResults_eq_map, Option.isSome_map, List.find?_isSome]
  exact ⟨_, List.mem_reverse.2 (List.mem_map_of_mem he), beq_self_eq_true _⟩

theorem unshadowed_of_found
    (hown : ∀ v, (OutcomeTable.ofResults results).find? (outcomeKey item outcome) = some v →
      v.identifier = outcome) : Unshadowed results item outcome := by
  intro before e after hsplit hother
  have hkey : outcomeKey e.1 e.2.identifier = outcomeKey item outcome :=
    outcomeKey_eq_iff.2 (.inr hother)
  have he : e ∈ recordedOutcomes results := by simp [hsplit]
  have hsome := isSome_find?_of_mem he
  rw [hkey] at hsome
  obtain ⟨v, hfound⟩ := Option.isSome_iff_exists.1 hsome
  obtain rfl := hown v hfound
  obtain ⟨before', item', after', hsplit', hkey', hafter'⟩ :=
    OutcomeTable.find?_eq_some_iff_last.1 hfound
  obtain rfl := item_eq_of_outcomeKey_eq hkey'
  rcases eq_or_mem_of_last (hsplit.symm.trans hsplit') hafter' hkey with rfl | hmem
  · exact absurd hother (not_overlaps_self _ _)
  · exact ⟨v, hmem, rfl⟩

/-- Identifiers with dots share keys when one item's is the other's with a dotted rest. A lookup
answers with outcomes of the item itself exactly when none of another item under the same key is
recorded last, as is always so when no outcome has a dot in its identifier; it then answers with
the one recorded last for the item. -/
theorem find?_outcomeKey_own_iff (results : List ItemResult) (item outcome : String) :
    let found := (OutcomeTable.ofResults results).find? (outcomeKey item outcome)
    (∀ item' outcome', outcomeKey item' outcome' = outcomeKey item outcome ↔
      (item' = item ∧ outcome' = outcome) ∨ Overlaps item' outcome' item outcome) ∧
    ((∀ v, found = some v → (item, v) ∈ recordedOutcomes results ∧ v.identifier = outcome) ↔
      Unshadowed results item outcome) ∧
    (Unshadowed results item outcome →
      ∀ v, found = some v ↔ LastRecorded results item outcome v) ∧
    ('.' ∉ outcome.toList →
      (∀ e ∈ recordedOutcomes results, '.' ∉ e.2.identifier.toList) →
        Unshadowed results item outcome) := by
  intro found
  refine ⟨fun _ _ => outcomeKey_eq_iff, ⟨?_, ?_⟩, ?_, unshadowed_of_no_dot⟩
  · intro hown
    exact unshadowed_of_found fun v hfound => (hown v hfound).2
  · intro h v hfound
    obtain ⟨before, after, hsplit, hid, -⟩ := h.lastRecorded hfound
    exact ⟨by simp [hsplit], hid⟩
  · intro h v
    exact ⟨h.lastRecorded, h.find?_of_lastRecorded⟩

/-- Results of items with dots in their identifiers; no outcome has one. -/
def dottedItems : List ItemResult :=
  [{ identifier := "ITM.1", outcomes := [.single "SCORE" .float "1"] },
    { identifier := "ITM", outcomes := [.single "SCORE" .float "2"] },
    { identifier := "ITM.1.A", outcomes := [.single "SCORE" .float "3"] }]

theorem dotted_item_found :
    (OutcomeTable.ofResults dottedItems).find? "ITM.1.SCORE" = some (.single "SCORE" .float "1") ∧
      LastRecorded dottedItems "ITM.1" "SCORE" (.single "SCORE" .float "1") := by
  obtain ⟨-, -, hlast, hplain⟩ := find?_outcomeKey_own_iff dottedItems "ITM.1" "SCORE"
  have hunshadowed : Unshadowed dottedItems "ITM.1" "SCORE" :=
    hplain (by decide +kernel) (by decide +kernel)
  have hfound : (OutcomeTable.ofResults dottedItems).find? (outcomeKey "ITM.1" "SCORE") =
      some (.single "SCORE" .float "1") := by decide +kernel
  exact ⟨hfound, (hlast hunshadowed _).1 hfound⟩

/-- The outcome `PART.SCORE` of one item is taken for the outcome `SCORE` of another, for which
nothing is recorded. -/
theorem dotted_outcome_taken_for_another :
    let results : List ItemResult :=
      [{ identifier := "ITM-1", outcomes := [.single "PART.SCORE" .float "5"] }]
    let test : Test := { identifier := "TST", itemRefs := [{ identifier := "ITM-1.PART" }] }
    let s := Environment.testScope { registry := {}, config := {} } test results "R1"
    outcomeKey "ITM-1" "PART.SCORE" = outcomeKey "ITM-1.PART" "SCORE" ∧
      (∀ e ∈ recordedOutcomes results, e.1 ≠ "ITM-1.PART" ∧ e.2.identifier ≠ "SCORE") ∧
      s.itemOutcome? test (.ofResults results) "ITM-1.PART" "SCORE" none .error =
        pure (some ((Value.single .float "5").named "ITM-1.PART.SCORE")) := by
  decide +kernel

end lookup

end Rubric
