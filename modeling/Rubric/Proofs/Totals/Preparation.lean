import Rubric.Proofs.Totals.Extension

namespace Rubric

theorem prefix_declareTotal (ds : List OutcomeDeclaration) (d : DerivedTotal) :
    ds <+: declareTotal ds d := by
  rw [declareTotal]
  split
  · exact ⟨[.number d.identifier], rfl⟩
  · exact List.prefix_refl ds

theorem prefix_foldl_declareTotal (totals : List DerivedTotal) (ds : List OutcomeDeclaration) :
    ds <+: totals.foldl declareTotal ds := by
  induction totals generalizing ds with
  | nil => exact List.prefix_refl ds
  | cons d totals ih => exact (prefix_declareTotal ds d).trans (ih _)

theorem Node.filledAttribute?_of_identifier {node : Node} {x : String} (h : node.identifier = x)
    (hx : Text.allBlank x = false) : node.filledAttribute? "identifier" = some x := by
  rw [Node.identifier] at h
  cases hattribute : node.attribute? "identifier" with
  | none =>
    rw [hattribute] at h
    subst h
    exact absurd hx (by decide)
  | some y =>
    rw [hattribute] at h
    obtain rfl : y = x := h
    rw [Node.filledAttribute?, hattribute]
    simp [hx]

theorem DerivedTotal.identifier_statement (d : DerivedTotal) :
    d.statement.identifier = d.identifier := by
  rw [Node.identifier, attribute?_statement, Option.getD_some]

namespace Test

variable {test : Test} {x : String}

theorem mem_authoredTargets_iff :
    x ∈ test.authoredTargets ↔
      ∃ n ∈ test.processingRoot.preorder, n.statement? = some .setOutcomeValue ∧
        n.identifier = x := by
  rw [authoredTargets, processingRoot]
  cases test.processing with
  | none =>
    have hbare : (Node.statement? { name := "qti-outcome-processing" }) = none := by decide
    constructor
    · intro h
      cases h
    · rintro ⟨n, hn, hstatement, -⟩
      rcases Node.mem_preorder.1 hn with rfl | ⟨c, hc, -⟩
      · cases hbare.symm.trans hstatement
      · cases hc
  | some root =>
    simp [Node.descendants_eq_preorder, and_assoc]

/-- What a prepared test assigns: what the test assigns, and the totals that it does not. -/
theorem mem_authoredTargets_withDerivedTotals :
    x ∈ test.withDerivedTotals.authoredTargets ↔
      x ∈ test.authoredTargets ∨ x ∈ test.addedNames := by
  simp only [mem_authoredTargets_iff]
  constructor
  · rintro ⟨n, hn, hstatement, rfl⟩
    rcases Node.mem_preorder.1 hn with rfl | ⟨c, hc, hnc⟩
    · exact .inl ⟨test.processingRoot, Node.mem_preorder.2 (.inl rfl), hstatement, rfl⟩
    rcases List.mem_append.1 hc with hauthored | hadded
    · exact .inl ⟨n, Node.mem_preorder.2 (.inr ⟨c, hauthored, hnc⟩), hstatement, rfl⟩
    · obtain ⟨d, hd, rfl⟩ := List.mem_map.1 hadded
      rw [DerivedTotal.preorder_statement] at hnc
      rcases List.mem_pair.1 hnc with rfl | rfl
      · exact .inr (List.mem_map.2 ⟨d, hd, d.identifier_statement.symm⟩)
      · cases d.statement?_aggregate.symm.trans hstatement
  · rintro (⟨n, hn, hstatement, rfl⟩ | hadded)
    · rcases Node.mem_preorder.1 hn with rfl | ⟨c, hc, hnc⟩
      · have hroot := Node.mem_preorder.2 (.inl (Eq.refl test.withDerivedTotals.processingRoot))
        exact ⟨_, hroot, hstatement, rfl⟩
      · have hkept := List.mem_append_left (test.missingTotals.map DerivedTotal.statement) hc
        exact ⟨n, Node.mem_preorder.2 (.inr ⟨c, hkept, hnc⟩), hstatement, rfl⟩
    · obtain ⟨d, hd, rfl⟩ := List.mem_map.1 hadded
      have hchild : d.statement ∈ test.withDerivedTotals.processingRoot.children :=
        List.mem_append_right _ (List.mem_map_of_mem hd)
      have hself : d.statement ∈ d.statement.preorder := Node.mem_preorder.2 (.inl rfl)
      exact ⟨d.statement, Node.mem_preorder.2 (.inr ⟨_, hchild, hself⟩), d.statement?_statement,
        d.identifier_statement⟩

theorem identifier_mem_authoredTargets_withDerivedTotals {d : DerivedTotal}
    (hd : d ∈ test.derivedTotals) : d.identifier ∈ test.withDerivedTotals.authoredTargets := by
  rw [mem_authoredTargets_withDerivedTotals]
  by_cases hauthored : d.identifier ∈ test.authoredTargets
  · exact .inl hauthored
  · exact .inr (mem_addedNames.2 ⟨List.mem_map_of_mem hd, hauthored⟩)

theorem missingTotals_withDerivedTotals : test.withDerivedTotals.missingTotals = [] := by
  rw [missingTotals, List.filter_eq_nil_iff]
  intro d hd
  have hassigned : d.identifier ∈ test.withDerivedTotals.authoredTargets :=
    identifier_mem_authoredTargets_withDerivedTotals hd
  simpa using hassigned

theorem withDerivedTotals_of_missingTotals_eq_nil {root : Node}
    (hroot : test.processing = some root) (h : test.missingTotals = []) :
    test.withDerivedTotals = test := by
  have hsame : test.processingRoot = root := by rw [processingRoot, hroot, Option.getD_some]
  rw [withDerivedTotals, h, hsame, List.map_nil, List.append_nil, List.foldl_nil]
  cases root
  rw [← hroot]

/-- A prepared test stays as it is when it is prepared again. It has the declarations of the test in
front, and its rules are those of the test followed by statements of derived totals; each derived
total is assigned by some node of them. -/
theorem withDerivedTotals_idempotent_complete (test : Test) :
    let prepared := test.withDerivedTotals
    prepared.withDerivedTotals = prepared ∧ test.outcomes <+: prepared.outcomes ∧
      ∃ (root : Node) (added : List DerivedTotal), prepared.processing = some root ∧
        added.Sublist test.derivedTotals ∧
        root = { test.processingRoot with
          children := test.processingRoot.children ++ added.map DerivedTotal.statement } ∧
        ∀ d ∈ test.derivedTotals, ∃ n ∈ root.descendants,
          n.statement? = some .setOutcomeValue ∧
            n.filledAttribute? "identifier" = some d.identifier := by
  intro prepared
  refine ⟨withDerivedTotals_of_missingTotals_eq_nil rfl missingTotals_withDerivedTotals,
    prefix_foldl_declareTotal _ _, prepared.processingRoot, test.missingTotals, rfl,
    List.filter_sublist, rfl, ?_⟩
  intro d hd
  obtain ⟨n, hn, hstatement, hid⟩ :=
    mem_authoredTargets_iff.1 (identifier_mem_authoredTargets_withDerivedTotals hd)
  rw [← Node.descendants_eq_preorder] at hn
  have hregular := regular_of_mem_derivedTotals hd
  exact ⟨n, hn, hstatement, Node.filledAttribute?_of_identifier hid hregular.identifier⟩

/-- Two totals share an identifier. It is assigned, and preparing again adds neither of them. -/
theorem overwritten_total_assigned :
    let prepared := (sampleTest "WEIGHTED").withDerivedTotals
    prepared.withDerivedTotals = prepared ∧
      ∃ root, prepared.processing = some root ∧ ∃ n ∈ root.descendants,
        n.statement? = some .setOutcomeValue ∧
          n.filledAttribute? "identifier" = some "SCORE_TOTAL_WEIGHTED" := by
  obtain ⟨hsame, -, root, -, hroot, -, -, hassigned⟩ :=
    withDerivedTotals_idempotent_complete (sampleTest "WEIGHTED")
  have htotal : DerivedTotal.plainOf "WEIGHTED" ∈ (sampleTest "WEIGHTED").derivedTotals := by
    decide +kernel
  exact ⟨hsame, root, hroot, hassigned _ htotal⟩

end Test

end Rubric
