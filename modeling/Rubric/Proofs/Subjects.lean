import Rubric.Proofs.Agreement

namespace Rubric.Scope

variable {s s' : Scope} {A W : Set String}

theorem SameAnswers.execute_eq (h : s.SameAnswers s' A W) {node : Node} (hnode : node.Within A W)
    (store : Store) : s'.execute node store = s.execute node store := by
  obtain ⟨_, ws, log, -, hx, hx'⟩ := h.execute node (Set.eqOn_refl (Variable.find? store) A) hnode
  rw [hx, hx']

theorem SameAnswers.executeAll_eq (h : s.SameAnswers s' A W) {nodes : List Node}
    (hnodes : ∀ n ∈ nodes, n.Within A W) (store : Store) :
    s'.executeAll nodes store = s.executeAll nodes store := by
  induction nodes generalizing store with
  | nil => rfl
  | cons node rest ih =>
    have hrest : ∀ n ∈ rest, n.Within A W := fun n hn => hnodes n (.tail _ hn)
    simp only [Scope.executeAll, h.execute_eq (hnodes node (.head _)), ih hrest]

theorem SameAnswers.executeAll_eq_univ (h : s.SameAnswers s' Set.univ Set.univ)
    (nodes : List Node) (store : Store) : s'.executeAll nodes store = s.executeAll nodes store :=
  h.executeAll_eq (fun n _ => n.within_univ) store

/-- Items of the same declarations give the same answers where the recorded responses agree. A
variable without a name is never looked up. -/
theorem sameAnswers_of_item {item item' : Item} {responses responses' : List Variable}
    (h : s.SameSettings s') (hs : s.subject = .item item responses)
    (hs' : s'.subject = .item item' responses') (houtcomes : item'.outcomes = item.outcomes)
    (hresponses : item'.responses = item.responses)
    (hrecorded : Set.EqOn (Variable.find? responses) (Variable.find? responses') (A \ {""})) :
    s.SameAnswers s' A W where
  toSameSettings := h
  variableValue := by
    intro store store' hstores node hnode
    by_cases hname : node.identifier = ""
    · have hempty : node.identifier.isEmpty = true := by rw [hname]; rfl
      simp only [variableValue, hempty, ↓reduceIte, h.fallback]
    · have hsame := hrecorded ⟨hnode, hname⟩
      simp only [variableValue, hs, hs', responseValue?, Item.response?, Item.outcome?,
        houtcomes, hresponses, hsame, hstores hnode, h.fallback]
  correctValue? node := by
    simp only [correctValue?, hs, hs', Item.response?, hresponses, h.fallback]
  aggregate? node := by simp only [aggregate?, hs, hs', h.fallback]
  outcome? := by
    intro x _
    simp only [outcome?, hs, hs', Item.outcome?, houtcomes]

section Test

variable {test test' : Test} {table table' : OutcomeTable}

theorem SameSettings.weighted (h : s.SameSettings s') (ref : ItemRef) (weight key : String)
    (value : Value) : s'.weighted ref weight key value = s.weighted ref weight key value := by
  simp only [Scope.weighted, h.fallback]

theorem SameSettings.itemOutcome? (h : s.SameSettings s') (hrefs : test'.itemRefs = test.itemRefs)
    (htable : table'.find? = table.find?) (item outcome : String) (weight : Option String)
    (missing : Severity) :
    s'.itemOutcome? test' table' item outcome weight missing =
      s.itemOutcome? test table item outcome weight missing := by
  have href : test'.itemRef? item = test.itemRef? item := by
    rw [Test.itemRef?, Test.itemRef?, hrefs]
  simp only [Scope.itemOutcome?, href, htable, h.fallback, h.weighted]

theorem SameSettings.sumOutcomes (h : s.SameSettings s') (hrefs : test'.itemRefs = test.itemRefs)
    (htable : table'.find? = table.find?) (outcome : String) (weight : Option String)
    (total : Float) (refs : List ItemRef) :
    s'.sumOutcomes test' table' outcome weight total refs =
      s.sumOutcomes test table outcome weight total refs := by
  induction refs generalizing total with
  | nil => rfl
  | cons ref refs ih => simp only [Scope.sumOutcomes, h.itemOutcome? hrefs htable, ih]

/-- Tests of the same items that declare the outcomes of `A` alike give the same answers from tables
in which the same is found. -/
theorem sameAnswers_of_itemRefs (h : s.SameSettings s') (hs : s.subject = .test test table)
    (hs' : s'.subject = .test test' table') (hrefs : test'.itemRefs = test.itemRefs)
    (htable : table'.find? = table.find?)
    (houtcomes : Set.EqOn test'.outcome? test.outcome? A) :
    s.SameAnswers s' A A where
  toSameSettings := h
  variableValue := by
    intro store store' hstores node hnode
    simp only [variableValue, hs, hs', outcomeValue, ← hstores hnode, houtcomes hnode,
      h.itemOutcome? hrefs htable, h.fallback]
  correctValue? node := by simp only [correctValue?, hs, hs', h.fallback]
  aggregate? node := by
    simp only [aggregate?, hs, hs', hrefs, h.sumOutcomes hrefs htable, h.fallback]
  outcome? := by
    intro x hx
    simp only [outcome?, hs, hs', houtcomes hx]

end Test

end Rubric.Scope
