import Rubric.Proofs.LowerCase
import Rubric.Proofs.Matching

namespace Rubric

/-- A test on strings asked twice, first with and then without regard to case. -/
structure Node.Relaxes (strict relaxed : Node) (kind : Predicate) : Prop where
  strictKind : strict.predicate? = some kind
  relaxedKind : relaxed.predicate? = some kind
  children : relaxed.children = strict.children
  sensitive : (strict.attribute? "caseSensitive").map readBoolean = some (.ok true)
  insensitive : (relaxed.attribute? "caseSensitive").map readBoolean = some (.ok false)

theorem Node.comparison?_of_predicate? {node : Node} {kind : Predicate}
    (h : node.predicate? = some kind) : node.comparison? = none := by
  rw [comparison?]
  unfold predicate? Predicate.ofTag? at h
  split at h
  case h_7 => cases h
  all_goals
    rename_i htag
    rw [htag]
    rfl

namespace Scope

variable {s : Scope} {store : Store} {node strict relaxed : Node} {kind : Predicate}
  {left right : Value}

theorem value_holds_stringMatch (h : node.predicate? = some .stringMatch)
    (hoperands : (s.resolveAll store node.children).value = [left, right]) :
    (s.holds store node).value = (s.sameText node left right).value := by
  have hnone := Node.comparison?_of_predicate? h
  cases node
  simp only [holds, hnone, h, Logged.value_bind, hoperands, pair?, Logged.value_pure]

theorem value_holds_substring (h : node.predicate? = some .substring)
    (hoperands : (s.resolveAll store node.children).value = [left, right]) :
    (s.holds store node).value = (s.occursIn node left right).value := by
  have hnone := Node.comparison?_of_predicate? h
  cases node
  simp only [holds, hnone, h, Logged.value_bind, hoperands, pair?, Logged.value_pure]

theorem value_sameText_iff :
    (s.sameText node left right).value = true ↔
      ∃ a b, left.scalar = some a ∧ right.scalar = some b ∧
        if caseSensitive node s.config.response.stringMatchCaseSensitive then a = b
        else Text.lower a = Text.lower b := by
  rw [sameText]
  cases left.scalar with
  | none => simp
  | some a =>
    cases right.scalar with
    | none => simp
    | some b =>
      simp only [Option.some.injEq, exists_eq_left', exists_and_left]
      split
      · simp
      · simp

/-- Two strings that are not empty, as a test on occurrence asks for them. -/
structure FilledStrings (left right : Value) : Prop where
  baseTypes : left.baseType = .string ∧ right.baseType = .string
  filled : left.scalar.getD "" ≠ "" ∧ right.scalar.getD "" ≠ ""

theorem filledStrings_of_occursIn (h : (s.occursIn node left right).value = true) :
    FilledStrings left right := by
  have hbase : left.baseType = .string ∧ right.baseType = .string := by
    by_contra hne
    rw [occursIn, if_pos (by simpa [imp_iff_not_or] using hne)] at h
    cases h
  refine ⟨hbase, ?_⟩
  by_contra hempty
  have hsome : ((left.scalar.getD "").isEmpty || (right.scalar.getD "").isEmpty) = true := by
    simpa [imp_iff_not_or] using hempty
  rw [occursIn, if_neg (by simp [hbase])] at h
  simp only [hsome, reduceIte, value_fallback, Bool.false_eq_true] at h

theorem value_occursIn (h : FilledStrings left right) :
    (s.occursIn node left right).value =
      if caseSensitive node s.config.response.substringCaseSensitive then
        Text.contains (right.scalar.getD "") (left.scalar.getD "")
      else
        Text.contains (Text.lower (right.scalar.getD "")) (Text.lower (left.scalar.getD "")) := by
  rw [occursIn, if_neg (by simp [h.baseTypes]), if_neg (by simpa using h.filled)]
  split <;> rfl

section relaxes

variable (h : Node.Relaxes strict relaxed kind)
include h

theorem caseSensitive_of_relaxes (default : Bool) :
    caseSensitive strict default = true ∧ caseSensitive relaxed default = false := by
  rw [caseSensitive, caseSensitive, h.sensitive, h.insensitive]
  exact ⟨rfl, rfl⟩

theorem sameText_of_relaxes (hstrict : (s.sameText strict left right).value = true) :
    (s.sameText relaxed left right).value = true := by
  obtain ⟨hsensitive, hinsensitive⟩ :=
    caseSensitive_of_relaxes h s.config.response.stringMatchCaseSensitive
  obtain ⟨a, b, ha, hb, hab⟩ := value_sameText_iff.1 hstrict
  rw [hsensitive, if_pos rfl] at hab
  refine value_sameText_iff.2 ⟨a, b, ha, hb, ?_⟩
  rw [hinsensitive, if_neg Bool.false_ne_true, hab]

theorem occursIn_of_relaxes :
    (s.occursIn strict left right).value = true ↔
      FilledStrings left right ∧
        Text.contains (right.scalar.getD "") (left.scalar.getD "") = true := by
  obtain ⟨hsensitive, -⟩ := caseSensitive_of_relaxes h s.config.response.substringCaseSensitive
  constructor
  · intro hstrict
    have hfilled := filledStrings_of_occursIn hstrict
    rw [value_occursIn hfilled, hsensitive, if_pos rfl] at hstrict
    exact ⟨hfilled, hstrict⟩
  · rintro ⟨hfilled, hcontains⟩
    rw [value_occursIn hfilled, hsensitive, if_pos rfl, hcontains]

theorem occursIn_relaxed (hfilled : FilledStrings left right) :
    (s.occursIn relaxed left right).value =
      Text.contains (Text.lower (right.scalar.getD "")) (Text.lower (left.scalar.getD "")) := by
  obtain ⟨-, hinsensitive⟩ := caseSensitive_of_relaxes h s.config.response.substringCaseSensitive
  rw [value_occursIn hfilled, hinsensitive, if_neg Bool.false_ne_true]

end relaxes

theorem contains_lower (haystack needle : String) :
    Text.contains (Text.lower haystack) (Text.lower needle) =
      Text.containsChars (Text.lowerFrom [] needle.toList) (Text.lowerFrom [] haystack.toList) := by
  rw [Text.contains, Text.lower, Text.lower, String.toList_ofList, String.toList_ofList]

def stringsOf (needle haystack : String) : Store :=
  [.single "A" .string needle, .single "B" .string haystack]

/-- The test whether the first of two stored strings occurs in the second. -/
def occurrence (sensitive : String) : Node where
  name := "substring"
  attributes := .ofList [("caseSensitive", sensitive)]
  children := [.reading "A", .reading "B"]

theorem relaxes_occurrence : Node.Relaxes (occurrence "true") (occurrence "false") .substring where
  strictKind := by decide
  relaxedKind := by decide
  children := rfl
  sensitive := by decide
  insensitive := by decide

theorem resolveAll_occurrence (needle haystack : String) :
    (bare.resolveAll (stringsOf needle haystack) (occurrence "true").children).value =
      [(Variable.single "A" .string needle).value, (Variable.single "B" .string haystack).value] :=
  rfl

/-- Without regard to case a test on strings accepts whatever it accepts with it: equal strings
always, and a first string inside a second one exactly when the lower case of the first is settled,
whatever it stands in. -/
theorem relaxed_case_accepts_iff (needle : String) :
    (∀ s store strict relaxed left right, Node.Relaxes strict relaxed .stringMatch →
      (resolveAll s store strict.children).value = [left, right] →
      (s.holds store strict).value = true → (s.holds store relaxed).value = true) ∧
    ((∀ s store strict relaxed left right, Node.Relaxes strict relaxed .substring →
      (resolveAll s store strict.children).value = [left, right] →
      left.scalar.getD "" = needle →
      (s.holds store strict).value = true → (s.holds store relaxed).value = true) ↔
      Text.CaseSettled needle.toList) := by
  constructor
  · intro s store strict relaxed left right h hoperands hstrict
    rw [value_holds_stringMatch h.strictKind hoperands] at hstrict
    rw [value_holds_stringMatch h.relaxedKind (h.children ▸ hoperands)]
    exact sameText_of_relaxes h hstrict
  rw [Text.caseSettled_iff]
  constructor
  · intro haccepts haystack hcontains
    by_cases hneedle : needle = ""
    · subst hneedle
      exact Text.containsChars_iff.2 ⟨[], _, rfl⟩
    obtain ⟨haystack, rfl⟩ : ∃ text : String, text.toList = haystack := ⟨.ofList haystack, by simp⟩
    have hhaystack : haystack ≠ "" := by
      rintro rfl
      exact hneedle (by simpa [Text.containsChars] using hcontains)
    have hoperands := resolveAll_occurrence needle haystack
    have hfilled : FilledStrings (Variable.single "A" .string needle).value
        (Variable.single "B" .string haystack).value := ⟨⟨rfl, rfl⟩, hneedle, hhaystack⟩
    have hstrict : (bare.holds (stringsOf needle haystack) (occurrence "true")).value = true := by
      rw [value_holds_substring relaxes_occurrence.strictKind hoperands,
        occursIn_of_relaxes relaxes_occurrence]
      exact ⟨hfilled, hcontains⟩
    have haccepted := haccepts bare _ _ _ _ _ relaxes_occurrence hoperands rfl hstrict
    rw [value_holds_substring relaxes_occurrence.relaxedKind hoperands,
      occursIn_relaxed relaxes_occurrence hfilled, contains_lower] at haccepted
    exact haccepted
  · intro hsettled s store strict relaxed left right h hoperands hneedle hstrict
    rw [value_holds_substring h.strictKind hoperands, occursIn_of_relaxes h] at hstrict
    obtain ⟨hfilled, hcontains⟩ := hstrict
    rw [value_holds_substring h.relaxedKind (h.children ▸ hoperands), occursIn_relaxed h hfilled,
      contains_lower, hneedle]
    exact hsettled _ (hneedle ▸ hcontains)

/-- A sigma at the start of the text sought is settled by the letter behind it. -/
theorem settled_sigma_found :
    let comparison (sensitive : String) := { occurrence sensitive with name := "stringMatch" }
    let compare (sensitive : String) := bare.holds (stringsOf "ΣΑ" "ΣΑ") (comparison sensitive)
    let search (sensitive : String) := bare.holds (stringsOf "ΣΑ" "ΑΣΑ") (occurrence sensitive)
    (compare "true").value = true ∧ (compare "false").value = true ∧
      Text.CaseSettled "ΣΑ".toList ∧
      (search "true").value = true ∧ (search "false").value = true := by
  intro comparison compare search
  obtain ⟨hcompare, hsearch⟩ := relaxed_case_accepts_iff "ΣΑ"
  have hrelaxes : Node.Relaxes (comparison "true") (comparison "false") .stringMatch :=
    ⟨by decide, by decide, rfl, by decide, by decide⟩
  have hsettled : Text.CaseSettled "ΣΑ".toList := by
    intro p c q hcs hc
    obtain ⟨rfl, h⟩ | ⟨p, rfl, h⟩ := List.cons_eq_append_iff.1 hcs
    · obtain ⟨rfl, rfl⟩ := List.cons.inj h
      decide +kernel
    · have hlast : c ∈ p ++ c :: q := List.mem_append_right p List.mem_cons_self
      rw [← h] at hlast
      rw [List.mem_singleton.1 hlast] at hc
      exact absurd hc (by decide)
  have hequal : (compare "true").value = true := by decide
  have hcontains : (search "true").value = true := by decide
  refine ⟨hequal, ?_, hsettled, hcontains, ?_⟩
  · exact hcompare bare _ _ _ _ _ hrelaxes (resolveAll_occurrence "ΣΑ" "ΣΑ") hequal
  · exact hsearch.2 hsettled bare _ _ _ _ _ relaxes_occurrence
      (resolveAll_occurrence "ΣΑ" "ΑΣΑ") rfl hcontains

/-- A word's beginning that ends in a capital sigma is found inside the word, but not without regard
to case. -/
theorem beginning_of_word_rejected :
    let run (sensitive : String) := bare.holds (stringsOf "ΑΣ" "ΑΣΑ") (occurrence sensitive)
    Node.Relaxes (occurrence "true") (occurrence "false") .substring ∧
      (run "true").value = true ∧ (run "false").value = false ∧ (run "false").log = [] := by
  exact ⟨relaxes_occurrence, by decide, by decide +kernel, by decide +kernel⟩

end Scope

end Rubric
