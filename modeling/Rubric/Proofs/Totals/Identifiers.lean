import Mathlib.Data.List.Nodup
import Mathlib.Data.List.Perm.Basic
import Rubric.Proofs.Words
import Rubric.Totals

namespace Rubric

namespace Test

variable {test : Test}

theorem mem_categories {c : String} :
    c ∈ test.categories ↔ ∃ ref ∈ test.itemRefs, ∃ raw ∈ ref.categories.elements,
      Text.allBlank raw = false ∧ Text.trim raw = c := by
  simp only [categories, TextSet.mem_ofList, List.mem_filter, List.mem_flatMap, List.mem_map]
  constructor
  · rintro ⟨⟨ref, href, raw, hraw, rfl⟩, hne⟩
    rw [Text.isEmpty_trim] at hne
    exact ⟨ref, href, raw, hraw, by simpa using hne, rfl⟩
  · rintro ⟨ref, href, raw, hraw, hb, rfl⟩
    refine ⟨⟨ref, href, raw, hraw, rfl⟩, ?_⟩
    rw [Text.isEmpty_trim, hb]
    rfl

theorem nodup_categories : test.categories.Nodup :=
  TextSet.nodup_elements _

theorem mem_derivedTotals {d : DerivedTotal} :
    d ∈ test.derivedTotals ↔
      d ∈ DerivedTotal.overall ∨ ∃ c ∈ test.categories, d ∈ DerivedTotal.ofCategory c := by
  rw [derivedTotals, List.mem_append, List.mem_flatMap]

end Test

namespace DerivedTotal

def identifierOf (ending : String) : String :=
  "SCORE_TOTAL_" ++ ending

theorem identifierOf_injective : Function.Injective identifierOf := by
  intro a b h
  exact (String.append_right_inj _).1 h

theorem plain_ne_identifierOf (ending : String) : plain ≠ identifierOf ending := by
  intro h
  have hlength := congrArg String.length h
  rw [identifierOf, String.length_append] at hlength
  have hplain : plain.length = 11 := by decide +kernel
  have hfront : "SCORE_TOTAL_".length = 12 := by decide +kernel
  omega

theorem weighted_eq : weighted = identifierOf "WEIGHTED" := by decide +kernel

def plainOf (category : String) : DerivedTotal where
  identifier := s!"{plain}_{category}"
  category := some category

def weightedOf (category : String) : DerivedTotal where
  identifier := s!"{weighted}_{category}"
  weight := some weightName
  category := some category

theorem ofCategory_eq (category : String) :
    ofCategory category = [plainOf category, weightedOf category] := rfl

theorem identifier_plainOf (c : String) : (plainOf c).identifier = identifierOf c := by
  have hfront : plain ++ "_" = "SCORE_TOTAL_" := by decide +kernel
  change plain ++ "_" ++ c = _
  rw [hfront, identifierOf]

theorem identifier_weightedOf (c : String) :
    (weightedOf c).identifier = identifierOf ("WEIGHTED_" ++ c) := by
  have hfront : weighted ++ "_" = "SCORE_TOTAL_" ++ "WEIGHTED_" := by decide +kernel
  change weighted ++ "_" ++ c = _
  rw [hfront, identifierOf, String.append_assoc]

theorem map_identifier_ofCategory (c : String) :
    (ofCategory c).map identifier = [identifierOf c, identifierOf ("WEIGHTED_" ++ c)] := by
  rw [ofCategory_eq, List.map_cons, List.map_cons, List.map_nil, identifier_plainOf,
    identifier_weightedOf]

theorem weighted_prefix_injective : Function.Injective fun c : String => "WEIGHTED_" ++ c := by
  intro a b h
  exact (String.append_right_inj _).1 h

theorem weighted_ne_weighted_prefix (c : String) : "WEIGHTED" ≠ "WEIGHTED_" ++ c := by
  intro h
  have hlength := congrArg String.length h
  rw [String.length_append] at hlength
  have hword : "WEIGHTED".length = 8 := by decide +kernel
  have hfront : "WEIGHTED_".length = 9 := by decide +kernel
  omega

end DerivedTotal

namespace Test

variable {test : Test}

def endings (test : Test) : List String :=
  "WEIGHTED" :: test.categories.flatMap fun c => [c, "WEIGHTED_" ++ c]

theorem map_identifier_derivedTotals :
    test.derivedTotals.map DerivedTotal.identifier =
      DerivedTotal.plain :: test.endings.map DerivedTotal.identifierOf := by
  have hcategories : (test.categories.flatMap DerivedTotal.ofCategory).map
      DerivedTotal.identifier = (test.categories.flatMap fun c => [c, "WEIGHTED_" ++ c]).map
        DerivedTotal.identifierOf := by
    simp only [List.map_flatMap, DerivedTotal.map_identifier_ofCategory, List.map_cons,
      List.map_nil]
  rw [derivedTotals, List.map_append, hcategories, endings, List.map_cons,
    ← DerivedTotal.weighted_eq]
  rfl

theorem perm_endings :
    List.Perm test.endings
      ("WEIGHTED" :: (test.categories ++ test.categories.map fun c => "WEIGHTED_" ++ c)) := by
  have hperm := List.map_append_flatMap_perm test.categories id fun c => ["WEIGHTED_" ++ c]
  rw [List.map_id, ← List.map_eq_flatMap] at hperm
  exact (hperm.cons _).symm

theorem nodup_endings :
    test.endings.Nodup ↔
      "WEIGHTED" ∉ test.categories ∧ ∀ c ∈ test.categories, "WEIGHTED_" ++ c ∉ test.categories := by
  have hmap : (test.categories.map fun c => "WEIGHTED_" ++ c).Nodup :=
    nodup_categories.map DerivedTotal.weighted_prefix_injective
  have hword : "WEIGHTED" ∉ test.categories.map fun c => "WEIGHTED_" ++ c := by
    intro h
    obtain ⟨c, -, hc⟩ := List.mem_map.1 h
    exact DerivedTotal.weighted_ne_weighted_prefix c hc.symm
  rw [perm_endings.nodup_iff, List.nodup_cons, List.mem_append, or_iff_left hword,
    List.nodup_append]
  constructor
  · rintro ⟨hne, -, -, hdisjoint⟩
    refine ⟨hne, fun c hc hin => ?_⟩
    exact hdisjoint _ hin _ (List.mem_map_of_mem hc) rfl
  · rintro ⟨hne, hdisjoint⟩
    refine ⟨hne, nodup_categories, hmap, fun a ha b hb hab => ?_⟩
    obtain ⟨c, hc, rfl⟩ := List.mem_map.1 hb
    exact hdisjoint c hc (hab ▸ ha)

/-- The totals of a test have different identifiers exactly when no category is spelled like the
weighted total of all items or like that of another category. -/
theorem nodup_identifiers_derivedTotals :
    (test.derivedTotals.map DerivedTotal.identifier).Nodup ↔
      "WEIGHTED" ∉ test.categories ∧ ∀ c ∈ test.categories, "WEIGHTED_" ++ c ∉ test.categories := by
  have hplain : DerivedTotal.plain ∉ test.endings.map DerivedTotal.identifierOf := by
    intro h
    obtain ⟨ending, -, he⟩ := List.mem_map.1 h
    exact DerivedTotal.plain_ne_identifierOf ending he.symm
  rw [map_identifier_derivedTotals, List.nodup_cons,
    List.nodup_map_iff DerivedTotal.identifierOf_injective, nodup_endings]
  exact and_iff_right hplain

end Test

end Rubric
