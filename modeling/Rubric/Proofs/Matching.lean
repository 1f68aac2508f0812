import Mathlib.Data.List.Perm.Basic
import Mathlib.Data.Option.Basic
import Rubric.Evaluate
import Rubric.Proofs.Names
import Rubric.Proofs.Sorting

namespace Rubric

theorem mapM_eq_some_iff {α β : Type} {f : α → Option β} {xs : List α} {ys : List β} :
    xs.mapM f = some ys ↔ xs.map f = ys.map some := by
  induction xs generalizing ys with
  | nil => cases ys <;> simp
  | cons x xs ih =>
    rw [List.mapM_cons, List.map_cons]
    cases ys with
    | nil => cases f x <;> cases xs.mapM f <;> simp
    | cons y ys =>
      rw [List.map_cons, List.cons_eq_cons, ← ih]
      cases f x <;> cases xs.mapM f <;> simp

theorem mapM_eq_none_iff {α β : Type} {f : α → Option β} {xs : List α} :
    xs.mapM f = none ↔ none ∈ xs.map f := by
  induction xs with
  | nil => simp
  | cons x xs ih =>
    rw [List.mapM_cons, List.map_cons, List.mem_cons, ← ih]
    cases f x <;> cases xs.mapM f <;> simp

theorem mergeSort_eq_mergeSort_iff {xs ys : List String} :
    (xs.mergeSort fun a b => decide (a ≤ b)) = (ys.mergeSort fun a b => decide (a ≤ b)) ↔
      xs.Perm ys := by
  constructor
  · intro heq
    exact (List.mergeSort_perm xs _).symm.trans (heq ▸ List.mergeSort_perm ys _)
  · intro hperm
    apply mergeSort_key_eq_of_perm hperm
    intro a _ b _ heq
    exact heq

/-- The same texts in any order, in values that leave their order open. -/
structure Value.Rearranges (v w : Value) : Prop where
  baseType : v.baseType = w.baseType
  unordered : v.cardinality ≠ .ordered ∧ w.cardinality ≠ .ordered
  texts : v.texts.Perm w.texts

theorem Value.Rearranges.symm {v w : Value} (h : v.Rearranges w) : w.Rearranges v where
  baseType := h.baseType.symm
  unordered := h.unordered.symm
  texts := h.texts.symm

namespace Scope

theorem sameTexts_eq_true_iff {ordered : Bool} {xs ys : List String} :
    sameTexts ordered xs ys = true ↔ if ordered then xs = ys else xs.Perm ys := by
  cases ordered with
  | true => simp [sameTexts]
  | false => simp [sameTexts, mergeSort_eq_mergeSort_iff]

variable {s : Scope} {tag : String} {left right : Value}

/-- The three courses of a match: base types that differ, texts that agree or not, and a text
without a canonical form. -/
theorem matchValues_of_baseType_ne (h : left.baseType ≠ right.baseType) :
    s.matchValues tag left right =
      s.fallback (.baseTypesDiffer tag left.baseType right.baseType) false := by
  rw [matchValues, if_pos (bne_iff_ne.2 h)]

theorem matchValues_of_canonicalTexts? {xs ys : List String}
    (h : left.baseType = right.baseType) (hx : canonicalTexts? left = some xs)
    (hy : canonicalTexts? right = some ys) :
    s.matchValues tag left right =
      pure (sameTexts (left.cardinality = .ordered || right.cardinality = .ordered) xs ys) := by
  rw [matchValues, if_neg (by simp [h]), hx, hy]

theorem matchValues_of_canonicalTexts?_eq_none (h : left.baseType = right.baseType)
    (hnone : canonicalTexts? left = none ∨ canonicalTexts? right = none) :
    s.matchValues tag left right = s.fallback (.membersInvalid tag left.baseType) false := by
  rw [matchValues, if_neg (by simp [h])]
  rcases hnone with hleft | hright
  · rw [hleft]
  · rw [hright]
    cases canonicalTexts? left <;> rfl

theorem value_matchValues_iff :
    (s.matchValues tag left right).value = true ↔
      left.baseType = right.baseType ∧ ∃ xs ys, canonicalTexts? left = some xs ∧
        canonicalTexts? right = some ys ∧
        if left.cardinality = .ordered ∨ right.cardinality = .ordered then xs = ys
        else xs.Perm ys := by
  by_cases h : left.baseType = right.baseType
  · cases hx : canonicalTexts? left with
    | none => simp [matchValues_of_canonicalTexts?_eq_none h (.inl hx)]
    | some xs =>
      cases hy : canonicalTexts? right with
      | none => simp [matchValues_of_canonicalTexts?_eq_none h (.inr hy)]
      | some ys =>
        rw [matchValues_of_canonicalTexts? h hx hy, Logged.value_pure, sameTexts_eq_true_iff]
        simp [h]
  · simp [matchValues_of_baseType_ne h, h]

theorem exists_error_of_problem {log : Log} {label : String} {problem : Problem}
    (h : .problem label problem ∈ log) (herror : problem.severity = .error) :
    ∃ e ∈ log.diagnostics, e.severity = .error :=
  ⟨_, List.mem_filterMap.2 ⟨_, h, rfl⟩, herror⟩

theorem error_matchValues_iff :
    (∃ e ∈ (s.matchValues tag left right).log.diagnostics, e.severity = .error) ↔
      left.baseType ≠ right.baseType ∨ canonicalTexts? left = none ∨
        canonicalTexts? right = none := by
  by_cases h : left.baseType = right.baseType
  · by_cases hnone : canonicalTexts? left = none ∨ canonicalTexts? right = none
    · rw [matchValues_of_canonicalTexts?_eq_none h hnone]
      exact iff_of_true (exists_error_of_problem (List.mem_singleton.2 rfl) rfl) (.inr hnone)
    · obtain ⟨hleft, hright⟩ := not_or.1 hnone
      obtain ⟨xs, hx⟩ := Option.ne_none_iff_exists'.1 hleft
      obtain ⟨ys, hy⟩ := Option.ne_none_iff_exists'.1 hright
      rw [matchValues_of_canonicalTexts? h hx hy]
      exact iff_of_false (by simp) (by simp [h, hx, hy])
  · rw [matchValues_of_baseType_ne h]
    exact iff_of_true (exists_error_of_problem (List.mem_singleton.2 rfl) rfl) (.inl h)

theorem canonicalTexts?_eq_some_nil_iff {v : Value} :
    canonicalTexts? v = some [] ↔ v.texts = [] := by
  rw [canonicalTexts?]
  cases v.texts with
  | nil => simp
  | cons text rest =>
    rw [List.mapM_cons]
    cases canonicalText? v.baseType text <;> cases rest.mapM (canonicalText? v.baseType) <;> simp

theorem holds_of_comparison {node : Node} {kind : Comparison} (h : node.comparison? = some kind)
    (store : Store) :
    s.holds store node = s.resolveAll store node.children >>= s.comparisonHolds node kind := by
  cases node
  simp only [holds, h]

theorem comparisonHolds_matching {node : Node} :
    s.comparisonHolds node .matching [left, right] = s.matchValues node.name left right := by
  rw [comparisonHolds, pair?, pure_bind]
  rfl

/-- A node that asks whether two values match. -/
structure Matches (s : Scope) (store : Store) (node : Node) (left right : Value) : Prop where
  matching : node.comparison? = some .matching
  operands : (s.resolveAll store node.children).value = [left, right]

section operands

variable {store : Store} {node : Node}

theorem Matches.value_holds (h : s.Matches store node left right) :
    (s.holds store node).value = (s.matchValues node.name left right).value := by
  rw [holds_of_comparison h.matching, Logged.value_bind, h.operands, comparisonHolds_matching]

theorem Matches.log_holds (h : s.Matches store node left right) :
    (s.holds store node).log =
      (s.resolveAll store node.children).log ++ (s.matchValues node.name left right).log := by
  rw [holds_of_comparison h.matching, Logged.log_bind, h.operands, comparisonHolds_matching]

end operands

def canonicalForms (v : Value) : List (Option String) :=
  v.texts.map (canonicalText? v.baseType)

theorem canonicalTexts?_eq_some_iff {v : Value} {xs : List String} :
    canonicalTexts? v = some xs ↔ canonicalForms v = xs.map some :=
  mapM_eq_some_iff

theorem canonicalTexts?_eq_none_iff {v : Value} :
    canonicalTexts? v = none ↔ none ∈ canonicalForms v :=
  mapM_eq_none_iff

theorem value_matchValues_iff_forms :
    (s.matchValues tag left right).value = true ↔
      left.baseType = right.baseType ∧ none ∉ canonicalForms left ∧
        (canonicalForms left).Perm (canonicalForms right) ∧
        (left.cardinality = .ordered ∨ right.cardinality = .ordered →
          canonicalForms left = canonicalForms right) := by
  rw [value_matchValues_iff]
  constructor
  · rintro ⟨hbase, xs, ys, hx, hy, hagree⟩
    rw [canonicalTexts?_eq_some_iff.1 hx, canonicalTexts?_eq_some_iff.1 hy]
    split at hagree
    · exact ⟨hbase, by simp, hagree ▸ .refl _, fun _ => hagree ▸ rfl⟩
    · next hunordered =>
      exact ⟨hbase, by simp, hagree.map some, fun h => absurd h hunordered⟩
  · rintro ⟨hbase, hnone, hperm, hordered⟩
    have hnone' : none ∉ canonicalForms right := fun h => hnone (hperm.mem_iff.2 h)
    obtain ⟨xs, hx⟩ := Option.ne_none_iff_exists'.1 (mt canonicalTexts?_eq_none_iff.1 hnone)
    obtain ⟨ys, hy⟩ := Option.ne_none_iff_exists'.1 (mt canonicalTexts?_eq_none_iff.1 hnone')
    rw [canonicalTexts?_eq_some_iff.1 hx, canonicalTexts?_eq_some_iff.1 hy] at hperm hordered
    have hinjective := Option.some_injective String
    refine ⟨hbase, xs, ys, hx, hy, ?_⟩
    split
    · next h => exact hinjective.list_map (hordered h)
    · exact (List.map_perm_map_iff hinjective).1 hperm

section exchange

variable {s' : Scope} {tag' : String} {left' right' : Value}

theorem value_matchValues_symm (h : (s.matchValues tag left right).value = true) :
    (s'.matchValues tag' right left).value = true := by
  obtain ⟨hbase, hnone, hperm, hordered⟩ := value_matchValues_iff_forms.1 h
  refine value_matchValues_iff_forms.2 ⟨hbase.symm, ?_, hperm.symm, ?_⟩
  · exact fun h => hnone (hperm.mem_iff.2 h)
  · exact fun h => (hordered h.symm).symm

theorem canonicalForms_perm {v w : Value} (h : v.Rearranges w) :
    (canonicalForms v).Perm (canonicalForms w) := by
  rw [canonicalForms, canonicalForms, h.baseType]
  exact h.texts.map _

theorem value_matchValues_of_rearranges (hleft : left'.Rearranges left)
    (hright : right'.Rearranges right) (h : (s.matchValues tag left right).value = true) :
    (s'.matchValues tag' left' right').value = true := by
  obtain ⟨hbase, hnone, hperm, -⟩ := value_matchValues_iff_forms.1 h
  have hl := canonicalForms_perm hleft
  have hr := canonicalForms_perm hright
  refine value_matchValues_iff_forms.2 ⟨?_, ?_, ?_, ?_⟩
  · rw [hleft.baseType, hbase, hright.baseType]
  · exact fun h => hnone (hl.mem_iff.1 h)
  · exact hl.trans (hperm.trans hr.symm)
  · exact fun h => absurd h (not_or_intro hleft.unordered.1 hright.unordered.1)

end exchange

/-- A match of two values of one base type. If all their texts have canonical forms, these agree as
bags, or as sequences when one of the values is ordered, and the comparison itself reports nothing.
The operands can be exchanged, and unordered ones rearranged. A text without a canonical form makes
the match fail with one error. -/
theorem containers_match_iff {store : Store} {node : Node} (h : s.Matches store node left right)
    (hbase : left.baseType = right.baseType) :
    let run := s.holds store node
    let operands := s.resolveAll store node.children
    let invalid : Problem := .membersInvalid node.name left.baseType
    (∀ xs ys : List String,
      canonicalForms left = xs.map some → canonicalForms right = ys.map some →
      (left.cardinality ≠ .ordered ∧ right.cardinality ≠ .ordered →
        (run.value = true ↔ xs.Perm ys)) ∧
      (left.cardinality = .ordered ∨ right.cardinality = .ordered →
        (run.value = true ↔ xs = ys)) ∧
      run.log = operands.log) ∧
    (∀ s' store' node', Matches s' store' node' right left →
      (s'.holds store' node').value = run.value) ∧
    (∀ s' store' node' left' right', Matches s' store' node' left' right' →
      left'.Rearranges left → right'.Rearranges right →
      (s'.holds store' node').value = run.value) ∧
    (none ∈ canonicalForms left ∨ none ∈ canonicalForms right →
      run.value = false ∧ invalid.severity = .error ∧
        run.log = operands.log ++ [.problem s.label invalid]) := by
  intro run operands invalid
  have hvalue : run.value = (s.matchValues node.name left right).value := h.value_holds
  have hlog : run.log = operands.log ++ (s.matchValues node.name left right).log := h.log_holds
  refine ⟨?_, ?_, ?_, ?_⟩
  · intro xs ys hx hy
    rw [← canonicalTexts?_eq_some_iff] at hx hy
    rw [hvalue, hlog, matchValues_of_canonicalTexts? hbase hx hy, Logged.value_pure,
      Logged.log_pure, List.append_nil, sameTexts_eq_true_iff]
    refine ⟨fun hunordered => ?_, fun hordered => ?_, rfl⟩
    · simp [hunordered]
    · simp [hordered]
  · intro s' store' node' h'
    rw [h'.value_holds, hvalue, Bool.eq_iff_iff]
    exact ⟨value_matchValues_symm, value_matchValues_symm⟩
  · intro s' store' node' left' right' h' hleft hright
    rw [h'.value_holds, hvalue, Bool.eq_iff_iff]
    exact ⟨value_matchValues_of_rearranges hleft.symm hright.symm,
      value_matchValues_of_rearranges hleft hright⟩
  · intro hnone
    rw [← canonicalTexts?_eq_none_iff, ← canonicalTexts?_eq_none_iff] at hnone
    rw [hvalue, hlog, matchValues_of_canonicalTexts?_eq_none hbase hnone]
    exact ⟨rfl, rfl, rfl⟩

/-- A scope of an item that declares nothing. -/
def bare : Scope where
  subject := .item { identifier := "ITM-1" } []
  registry := {}
  config := {}
  label := "ITM-1 - R1"

theorem repeated_numbers_match_in_any_order :
    let left : Variable := .container "A" .float .multiple ["1", "2.50", "2.5"]
    let right : Variable := .container "B" .float .multiple ["2.5", "1.0", "2.5"]
    let node : Node := { name := "match", children := [.reading "A", .reading "B"] }
    bare.Matches [left, right] node left.value right.value ∧
      left.value.baseType = right.value.baseType ∧
      (bare.holds [left, right] node).value = true := by
  intro left right node
  have h : bare.Matches [left, right] node left.value right.value :=
    ⟨by decide +kernel, by decide +kernel⟩
  obtain ⟨hagree, -⟩ := containers_match_iff h rfl
  obtain ⟨hunordered, -⟩ := hagree ["1", "2.5", "2.5"] ["2.5", "1", "2.5"]
    (by decide +kernel) (by decide +kernel)
  exact ⟨h, rfl, (hunordered (by decide)).2 (by decide)⟩

end Scope

end Rubric
