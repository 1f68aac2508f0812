import Rubric.Proofs.Matching
import Rubric.Proofs.MissingValues

namespace Rubric

/-- The cardinality of the container that a node makes of its operands, if it makes one. -/
def Node.collects? (node : Node) : Option Cardinality :=
  match node.expression? with
  | some .ordered => some .ordered
  | some .multiple => some .multiple
  | _ => none

/-- Values of one base type; without any value that is the type of strings. -/
structure Value.Uniform (values : List Value) (b : BaseType) : Prop where
  same : ∀ v ∈ values, v.baseType = b
  string : values = [] → b = .string

namespace Value.Uniform

variable {before inner after values : List Value} {v w : Value} {b c : BaseType}

theorem unique (hb : Uniform values b) (hc : Uniform values c) : b = c := by
  cases values with
  | nil => rw [hb.string rfl, hc.string rfl]
  | cons v rest => rw [← hb.same v (.head _), hc.same v (.head _)]

theorem eq_head (h : Uniform values b) : (values.head?.map Value.baseType).getD .string = b := by
  cases values with
  | nil => exact (h.string rfl).symm
  | cons v rest => exact h.same v (.head _)

theorem of_append (h : Uniform (before ++ inner ++ after) b) (hne : inner ≠ []) :
    Uniform inner b where
  same v hv := h.same v (List.mem_append_left _ (List.mem_append_right _ hv))
  string hnil := absurd hnil hne

theorem replace_iff (h : Uniform (before ++ inner ++ after) b) :
    Uniform (before ++ w :: after) b ↔ w.baseType = b := by
  constructor
  · intro hreplaced
    exact hreplaced.same w (List.mem_append_right _ (.head _))
  · intro hw
    refine ⟨fun v hv => ?_, fun hnil => absurd hnil (by simp)⟩
    rcases List.mem_append.1 hv with hbefore | hv
    · exact h.same v (List.mem_append_left _ (List.mem_append_left _ hbefore))
    rcases List.mem_cons.1 hv with rfl | hafter
    · exact hw
    · exact h.same v (List.mem_append_right _ hafter)

theorem eq_of_replace (h : Uniform (before ++ inner ++ after) b) (hinner : Uniform inner w.baseType)
    (hc : Uniform (before ++ w :: after) c) : c = b := by
  have hw : w.baseType = c := hc.same w (List.mem_append_right _ (.head _))
  by_cases hrest : before ++ after = []
  · obtain ⟨rfl, rfl⟩ := List.append_eq_nil_iff.1 hrest
    rw [List.nil_append, List.append_nil] at h
    rw [← hw]
    exact hinner.unique h
  · obtain ⟨v, hv⟩ := List.exists_mem_of_ne_nil _ hrest
    rcases List.mem_append.1 hv with hbefore | hafter
    · rw [← hc.same v (List.mem_append_left _ hbefore)]
      exact h.same v (List.mem_append_left _ (List.mem_append_left _ hbefore))
    · rw [← hc.same v (List.mem_append_right _ (.tail _ hafter))]
      exact h.same v (List.mem_append_right _ hafter)

end Value.Uniform

namespace Scope

variable {s : Scope} {store : Store} {tag tag' : String} {cardinality cardinality' : Cardinality}
  {before inner after values : List Value} {v w : Value}

/-- What a container is made of: values of one base type, whose texts become its members. -/
theorem value_containerOf?_eq_some_iff :
    (s.containerOf? tag cardinality values).value = some v ↔
      Value.Uniform values v.baseType ∧
        v = .container v.baseType cardinality (values.flatMap membersFrom) := by
  unfold containerOf?
  dsimp only
  split
  · next other hother =>
    have hmem := List.mem_of_find?_eq_some hother
    have hdiffer : other.baseType ≠ (values.head?.map Value.baseType).getD .string := by
      simpa using List.find?_some hother
    constructor
    · intro h
      cases h
    · rintro ⟨huniform, -⟩
      rw [huniform.eq_head] at hdiffer
      exact absurd (huniform.same other hmem) hdiffer
  · next hnone =>
    have huniform : Value.Uniform values ((values.head?.map Value.baseType).getD .string) := by
      refine ⟨fun v hv => ?_, ?_⟩
      · simpa using List.find?_eq_none.1 hnone v hv
      · rintro rfl
        rfl
    constructor
    · intro h
      obtain rfl := Option.some.inj h
      exact ⟨huniform, rfl⟩
    · rintro ⟨hv, hvalue⟩
      rw [hv.eq_head, hvalue]
      rfl

theorem resolveAll_append (xs ys : List Node) :
    s.resolveAll store (xs ++ ys) = do
      let vs ← s.resolveAll store xs
      let ws ← s.resolveAll store ys
      return vs ++ ws := by
  induction xs with
  | nil => simp [resolveAll]
  | cons x xs ih => ext1 <;> simp [resolveAll, ih]

theorem value_resolveAll_append (xs ys : List Node) :
    (s.resolveAll store (xs ++ ys)).value =
      (s.resolveAll store xs).value ++ (s.resolveAll store ys).value := by
  rw [resolveAll_append]
  rfl

theorem resolve_of_collects? {node : Node} (h : node.collects? = some cardinality) :
    s.resolve store node =
      s.resolveAll store node.children >>= s.containerOf? node.name cardinality := by
  obtain ⟨name, attributes, children, text⟩ := node
  rw [Node.collects?] at h
  split at h
  · next hkind =>
    cases h
    simp only [resolve, hkind]
  · next hkind =>
    cases h
    simp only [resolve, hkind]
  · cases h

theorem value_resolve_of_collects? {node : Node} (h : node.collects? = some cardinality) :
    (s.resolve store node).value =
      (s.containerOf? node.name cardinality (s.resolveAll store node.children).value).value := by
  rw [resolve_of_collects? h]
  rfl

theorem membersFrom_container {b : BaseType} {members : List String} :
    membersFrom (.container b cardinality members) = members := rfl

/-- A container in the place of its own operands, with the same cardinality around it or another. -/
theorem value_containerOf?_nested_iff
    (hflat : (s.containerOf? tag cardinality (before ++ inner ++ after)).value = some v)
    (hinner : (s.containerOf? tag' cardinality' inner).value = some w) :
    (s.containerOf? tag cardinality (before ++ w :: after)).value = some v ↔
      w.baseType = v.baseType := by
  obtain ⟨huniform, hv⟩ := value_containerOf?_eq_some_iff.1 hflat
  obtain ⟨-, hw⟩ := value_containerOf?_eq_some_iff.1 hinner
  have hmembers : (before ++ w :: after).flatMap membersFrom =
      (before ++ inner ++ after).flatMap membersFrom := by
    rw [hw]
    simp only [List.flatMap_append, List.flatMap_cons, membersFrom_container, List.append_assoc]
  rw [value_containerOf?_eq_some_iff, hmembers, huniform.replace_iff]
  exact and_iff_left hv

theorem value_containerOf?_nested_eq_none
    (hflat : (s.containerOf? tag cardinality (before ++ inner ++ after)).value = some v)
    (hinner : (s.containerOf? tag' cardinality' inner).value = some w)
    (hne : w.baseType ≠ v.baseType) :
    (s.containerOf? tag cardinality (before ++ w :: after)).value = none := by
  obtain ⟨huniform, -⟩ := value_containerOf?_eq_some_iff.1 hflat
  obtain ⟨hw, -⟩ := value_containerOf?_eq_some_iff.1 hinner
  rw [Option.eq_none_iff_forall_ne_some]
  intro u hu
  obtain ⟨hreplaced, -⟩ := value_containerOf?_eq_some_iff.1 hu
  have hsame := huniform.eq_of_replace hw hreplaced
  rw [hsame, huniform.replace_iff] at hreplaced
  exact hne hreplaced

theorem exists_value_containerOf?_inner
    (hflat : (s.containerOf? tag cardinality (before ++ inner ++ after)).value = some v)
    (tag' : String) (cardinality' : Cardinality) :
    ∃ w, (s.containerOf? tag' cardinality' inner).value = some w ∧
      (w.baseType = v.baseType ↔ inner ≠ [] ∨ v.baseType = .string) := by
  obtain ⟨huniform, -⟩ := value_containerOf?_eq_some_iff.1 hflat
  by_cases hnil : inner = []
  · refine ⟨.container .string cardinality' [], by rw [hnil]; rfl, ?_⟩
    simp [hnil, Value.container, eq_comm]
  · refine ⟨.container v.baseType cardinality' (inner.flatMap membersFrom), ?_, ?_⟩
    · exact value_containerOf?_eq_some_iff.2 ⟨huniform.of_append hnil, rfl⟩
    · exact iff_of_true rfl (.inl hnil)

/-- A container in a container, beside the node that has the operands of the inner one in its place.
Where that node has a value and no error is on record, the nested one has the same value if the
inner container has any operands, or if all is about strings; else it has none, with an error. -/
theorem nested_container_flattens_iff {node child : Node} {front back : List Node}
    (hchildren : node.children = front ++ child :: back) (hnode : node.collects?.isSome = true)
    (hchild : child.collects?.isSome = true) :
    let nested := s.resolve store node
    let flat := s.resolve store { node with children := front ++ child.children ++ back }
    flat.value = some v → ¬flat.log.Reports [.error] →
      (nested.value = some v ↔ child.children ≠ [] ∨ v.baseType = .string) ∧
      (nested.value ≠ some v → nested.value = none ∧ nested.log.Reports [.error]) := by
  intro nested flat hvalue hclean
  obtain ⟨c, hc⟩ := Option.isSome_iff_exists.1 hnode
  obtain ⟨c', hc'⟩ := Option.isSome_iff_exists.1 hchild
  have hflat : flat = s.resolveAll store (front ++ child.children ++ back) >>=
      s.containerOf? node.name c := resolve_of_collects? hc
  -- Nothing is lost on the way from nodes to values, or an error would be on record.
  have hcount : (s.resolveAll store child.children).value = [] ↔ child.children = [] := by
    rw [hflat, Logged.log_bind, Log.reports_append, resolveAll_append, resolveAll_append] at hclean
    simp only [Logged.log_bind, Log.reports_append, not_or] at hclean
    obtain ⟨⟨⟨-, hinner, -⟩, -⟩, -⟩ := hclean
    rw [← List.length_eq_zero_iff, s.length_resolveAll store hinner, List.length_eq_zero_iff]
  rw [hflat, Logged.value_bind, value_resolveAll_append, value_resolveAll_append] at hvalue
  obtain ⟨w, hw, hbase⟩ := exists_value_containerOf?_inner hvalue child.name c'
  have hnested : nested.value = (s.containerOf? node.name c
      ((s.resolveAll store front).value ++ w :: (s.resolveAll store back).value)).value := by
    rw [← value_resolve_of_collects? hc'] at hw
    rw [value_resolve_of_collects? hc, hchildren, value_resolveAll_append]
    simp only [resolveAll, Logged.value_bind, Logged.value_pure, hw, Option.toList_some,
      List.singleton_append]
  have hiff : nested.value = some v ↔ w.baseType = v.baseType := by
    rw [hnested, value_containerOf?_nested_iff hvalue hw]
  refine ⟨?_, fun hne => ?_⟩
  · rw [hiff, hbase, ne_eq, hcount]
  · have hnone : nested.value = none := by
      rw [hnested]
      exact value_containerOf?_nested_eq_none hvalue hw fun heq => hne (hiff.2 heq)
    exact ⟨hnone, s.accounted_resolve store node hnone⟩

def choices (texts : List String) : List Node :=
  texts.map (Node.constant "identifier")

theorem bag_in_sequence_flattens :
    let child : Node := { name := "qti-multiple", children := choices ["B", "A"] }
    let node : Node := { name := "ordered", children := choices ["C"] ++ [child] }
    (bare.resolve [] node).value = some (.container .identifier .ordered ["C", "B", "A"]) := by
  intro child node
  have hchildren : node.children = choices ["C"] ++ child :: [] := rfl
  have hflat : (bare.resolve [] { node with
      children := choices ["C"] ++ child.children ++ [] }).value =
        some (.container .identifier .ordered ["C", "B", "A"]) := by
    decide +kernel
  obtain ⟨hiff, -⟩ := nested_container_flattens_iff hchildren (by decide) (by decide) hflat
    (by decide +kernel)
  exact hiff.2 (.inl (List.cons_ne_nil _ _))

/-- An empty container in front of an identifier is a mixture of base types. -/
theorem empty_container_not_flattened :
    let child : Node := { name := "ordered" }
    let node : Node := { name := "ordered", children := child :: choices ["A"] }
    let flat := bare.resolve [] { node with children := child.children ++ choices ["A"] }
    let nested := bare.resolve [] node
    node.collects? = some .ordered ∧ child.collects? = some .ordered ∧
      flat.value = some (.container .identifier .ordered ["A"]) ∧ flat.log = [] ∧
      nested.value = none ∧
      nested.log = [.problem bare.label (.baseTypesMixed "ordered" .string .identifier)] := by
  decide +kernel

end Scope

end Rubric
