import Mathlib.Data.List.Nodup
import Mathlib.Data.List.Count
import Rubric.Format

namespace Rubric

namespace Dictionary

variable {α : Type}

theorem insertEntry_eq_append {key : String} {value : α} {es : List (String × α)}
    (h : ∀ e ∈ es, e.1 < key) : insertEntry key value es = es ++ [(key, value)] := by
  induction es with
  | nil => rfl
  | cons e es ih =>
    have he : e.1 < key := h e (.head _)
    rw [insertEntry, if_neg (String.lt_asymm he), if_pos he, ih fun d hd => h d (.tail _ hd)]
    rfl

theorem entries_foldl_insert {d : Dictionary α} {es : List (String × α)}
    (h : (d.entries ++ es).Pairwise fun a b => a.1 < b.1) :
    (es.foldl (fun d e => d.insert e.1 e.2) d).entries = d.entries ++ es := by
  induction es generalizing d with
  | nil => exact (List.append_nil _).symm
  | cons e es ih =>
    have hlast : ∀ c ∈ d.entries, c.1 < e.1 := by
      intro c hc
      exact (List.pairwise_append.1 h).2.2 c hc e (.head _)
    have hinsert : (d.insert e.1 e.2).entries = d.entries ++ [e] := insertEntry_eq_append hlast
    rw [List.foldl_cons, ih, hinsert, List.append_assoc, List.singleton_append]
    rwa [hinsert, List.append_assoc, List.singleton_append]

@[simp]
theorem ofList_entries (d : Dictionary α) : ofList d.entries = d := by
  apply Dictionary.ext
  exact entries_foldl_insert d.ascending

end Dictionary

namespace Json

variable {α : Type} {encode : α → Json} {decode : Json → Option α}

theorem record?_object {names : List String} {members : List (String × Json)}
    (h : (members.map Prod.fst).Nodup) :
    record? names (.object members) = some fun name => members.lookup name := by
  have honce : (names.all fun name => (members.filter fun m => m.1 == name).length ≤ 1) = true := by
    rw [List.all_eq_true]
    intro name _
    have hcount := List.nodup_iff_count_le_one.1 h name
    rw [List.count, List.countP_map, List.countP_eq_length_filter] at hcount
    exact decide_eq_true hcount
  rw [record?, if_pos honce]

theorem keys_member? (key : String) (j : Option Json) :
    ((member? key j).map Prod.fst).Sublist [key] := by
  cases j with
  | none => exact List.nil_sublist _
  | some j => exact List.Sublist.refl _

theorem keys_append {xs ys : List (String × Json)} {names others : List String}
    (hx : (xs.map Prod.fst).Sublist names) (hy : (ys.map Prod.fst).Sublist others) :
    ((xs ++ ys).map Prod.fst).Sublist (names ++ others) := by
  rw [List.map_append]
  exact hx.append hy

@[simp]
theorem lookup_member? (key name : String) (j : Option Json) :
    (member? key j).lookup name = if name = key then j else none := by
  cases j with
  | none => simp [member?]
  | some j =>
    by_cases h : name = key <;> simp [member?, List.lookup_cons, h, beq_eq_false_iff_ne.2]

@[simp]
theorem required_some (j : Json) : required decode (some j) = decode j := rfl

@[simp]
theorem optional_some (default : α) (j : Json) : optional default decode (some j) = decode j := rfl

theorem list?_map {xs : List α} (h : ∀ x ∈ xs, decode (encode x) = some x) :
    list? decode (.array (xs.map encode)) = some xs := by
  change (xs.map encode).mapM decode = some xs
  induction xs with
  | nil => rfl
  | cons x xs ih =>
    rw [List.map_cons, List.mapM_cons, h x (.head _), ih fun y hy => h y (.tail _ hy)]
    rfl

@[simp]
theorem text?_string (s : String) : text? (.string s) = some s := rfl

@[simp]
theorem texts?_ofTexts (xs : List String) : texts? (ofTexts xs) = some xs :=
  list?_map fun _ _ => rfl

@[simp]
theorem nullable?_ofText (x : Option String) : nullable? text? (ofText x) = some x := by
  cases x <;> rfl

theorem nullable?_of_ne_null {a : α} (h : decode (encode a) = some a) (hnull : encode a ≠ .null) :
    nullable? decode (encode a) = some (some a) := by
  unfold nullable?
  split
  · next heq => exact absurd heq hnull
  · rw [h]
    rfl

theorem nullable?_getD_null (h : ∀ a, decode (encode a) = some a) (hnull : ∀ a, encode a ≠ .null)
    (x : Option α) : nullable? decode ((x.map encode).getD .null) = some x := by
  cases x with
  | none => rfl
  | some a => exact nullable?_of_ne_null (h a) (hnull a)

theorem optional_nullable?_map (h : ∀ a, decode (encode a) = some a)
    (hnull : ∀ a, encode a ≠ .null) (x : Option α) :
    optional none (nullable? decode) (x.map encode) = some x := by
  cases x with
  | none => rfl
  | some a => exact nullable?_of_ne_null (h a) (hnull a)

/-- A field that is left out when it holds its default. -/
theorem optional_unless {skipped : Prop} [Decidable skipped] {default a : α} {j : Json}
    (hdefault : skipped → a = default) (h : decode j = some a) :
    optional default decode (if skipped then none else some j) = some a := by
  by_cases hskipped : skipped
  · rw [if_pos hskipped]
    exact congrArg some (hdefault hskipped).symm
  · rw [if_neg hskipped]
    exact h

@[simp]
theorem optional_map_string (x : Option String) :
    optional none (nullable? text?) (x.map .string) = some x :=
  optional_nullable?_map text?_string (fun _ => Json.noConfusion) x

@[simp]
theorem optional_map_ofTexts (x : Option (List String)) :
    optional none (nullable? texts?) (x.map ofTexts) = some x :=
  optional_nullable?_map texts?_ofTexts (fun _ => Json.noConfusion) x

@[simp]
theorem optional_ofTexts (xs : List String) :
    optional [] texts? (if xs = [] then none else some (ofTexts xs)) = some xs :=
  optional_unless id (texts?_ofTexts xs)

theorem dictionary?_entries {d : Dictionary α} (h : ∀ a, decode (encode a) = some a) :
    dictionary? decode (.object (d.entries.map fun e => (e.1, encode e.2))) = some d := by
  have hentries : (d.entries.map fun e => (e.1, encode e.2)).mapM
      (fun m => (decode m.2).map fun value => (m.1, value)) = some d.entries := by
    induction d.entries with
    | nil => rfl
    | cons e es ih =>
      rw [List.map_cons, List.mapM_cons, ih]
      simp only [h]
      rfl
  rw [dictionary?, hentries]
  exact congrArg some d.ofList_entries

end Json

section values

theorem BaseType.ofName?_name (b : BaseType) : ofName? b.name = some b := by
  cases b <;> decide

@[simp]
theorem BaseType.ofJson?_toJson (b : BaseType) : ofJson? b.toJson = some b :=
  ofName?_name b

@[simp]
theorem Cardinality.ofJson?_toJson (c : Cardinality) : ofJson? c.toJson = some c :=
  ofName?_name c

theorem Value.ofJson?_toJson (v : Value) : ofJson? v.toJson = some v := by
  rw [ofJson?, toJson, Json.record?_object]
  · simp [List.lookup_append, List.lookup_cons]
  · exact List.Nodup.sublist (Json.keys_append (Json.keys_append (Json.keys_append
      (.refl ["base_type", "cardinality"]) (Json.keys_member? "value" _))
      (Json.keys_member? "values" _)) (Json.keys_member? "identifier" _)) (by decide)

theorem Variable.ofJson?_toJson (v : Variable) : ofJson? v.toJson = some v := by
  rw [ofJson?, toJson, Json.record?_object]
  · simp [List.lookup_cons]
  · exact List.Nodup.sublist (Json.keys_append
      (.refl ["identifier", "base_type", "cardinality", "value"])
      (Json.keys_member? "values" _)) (by decide)

theorem OutcomeDeclaration.ofJson?_toJson (d : OutcomeDeclaration) :
    ofJson? d.toJson = some d := by
  rw [ofJson?, toJson, Json.record?_object]
  · simp [List.lookup_cons]
  · simp

theorem ResponseDeclaration.ofJson?_toJson (d : ResponseDeclaration) :
    ofJson? d.toJson = some d := by
  rw [ofJson?, toJson, Json.record?_object]
  · simp [List.lookup_cons]
  · simp

end values

namespace Node

theorem toJsonAll_eq_map (nodes : List Node) : toJsonAll nodes = nodes.map toJson := by
  induction nodes with
  | nil => rfl
  | cons node rest ih => rw [toJsonAll, ih, List.map_cons]

theorem toJson_eq (node : Node) :
    node.toJson = .object (("name", .string node.name) ::
      (Json.member? "attributes" (if node.attributes.isEmpty then none
          else some (.object (node.attributes.entries.map fun e => (e.1, .string e.2)))) ++
        Json.member? "children" (if node.children.isEmpty then none
          else some (.array (node.children.map toJson))) ++
        Json.member? "text" (node.text.map .string))) := by
  obtain ⟨name, attributes, children, text⟩ := node
  rw [toJson, toJsonAll_eq_map]

end Node

namespace Json

theorem depth_le_depthAll {js : List Json} {j : Json} (h : j ∈ js) : j.depth ≤ depthAll js := by
  induction js with
  | nil => cases h
  | cons i js ih =>
    rw [depthAll]
    rcases List.mem_cons.1 h with rfl | hrest
    · exact Nat.le_max_left _ _
    · exact Nat.le_trans (ih hrest) (Nat.le_max_right _ _)

theorem depth_le_depthMembers {members : List (String × Json)} {m : String × Json}
    (h : m ∈ members) : m.2.depth ≤ depthMembers members := by
  induction members with
  | nil => cases h
  | cons d members ih =>
    rw [depthMembers]
    rcases List.mem_cons.1 h with rfl | hrest
    · exact Nat.le_max_left _ _
    · exact Nat.le_trans (ih hrest) (Nat.le_max_right _ _)

end Json

namespace Node

theorem depth_child_lt {node child : Node} (h : child ∈ node.children) :
    child.toJson.depth + 1 < node.toJson.depth := by
  have hne : node.children.isEmpty = false := by
    rw [List.isEmpty_eq_false_iff]
    exact List.ne_nil_of_mem h
  have hchildren : child.toJson.depth + 1 ≤ (Json.array (node.children.map toJson)).depth := by
    rw [Json.depth]
    exact Nat.succ_le_succ (Json.depth_le_depthAll (List.mem_map_of_mem h))
  have hmember : (Json.array (node.children.map toJson)).depth < node.toJson.depth := by
    rw [toJson_eq node, Json.depth, hne]
    apply Nat.lt_succ_of_le
    apply Json.depth_le_depthMembers (m := ("children", .array (node.children.map toJson)))
    simp [Json.member?]
  omega

theorem ofJsonWithin?_toJson {levels : Nat} {node : Node} (h : node.toJson.depth < levels) :
    ofJsonWithin? levels node.toJson = some node := by
  induction levels generalizing node with
  | zero => exact absurd h (Nat.not_lt_zero _)
  | succ levels ih =>
    obtain ⟨name, attributes, children, text⟩ := node
    have hchildren : Json.list? (ofJsonWithin? levels) (.array (children.map toJson)) =
        some children := by
      apply Json.list?_map
      intro child hchild
      have hdepth := @depth_child_lt ⟨name, attributes, children, text⟩ child hchild
      exact ih (by omega)
    have hattributes := @Json.dictionary?_entries _ _ _ attributes Json.text?_string
    have hempty : attributes.isEmpty = true → attributes = {} := fun hnil =>
      Dictionary.ext (List.isEmpty_iff.1 hnil)
    rw [ofJsonWithin?, toJson_eq, Json.record?_object]
    · simp [List.lookup_append, List.lookup_cons, Json.optional_unless hempty hattributes,
        Json.optional_unless id hchildren]
    · exact List.Nodup.sublist ((Json.keys_append (Json.keys_append
        (Json.keys_member? "attributes" _) (Json.keys_member? "children" _))
        (Json.keys_member? "text" _)).cons_cons "name") (by decide)

theorem ofJson?_toJson (node : Node) : ofJson? node.toJson = some node :=
  ofJsonWithin?_toJson (Nat.lt_succ_self _)

theorem toJson_ne_null (node : Node) : node.toJson ≠ .null := by
  rw [toJson_eq]
  exact Json.noConfusion

end Node

section documents

theorem Item.ofJson?_toJson (item : Item) : ofJson? item.toJson = some item := by
  have houtcomes := @Json.list?_map _ _ _ item.outcomes fun d _ => d.ofJson?_toJson
  have hresponses := @Json.list?_map _ _ _ item.responses fun d _ => d.ofJson?_toJson
  have hprocessing :=
    Json.nullable?_getD_null Node.ofJson?_toJson Node.toJson_ne_null item.processing
  rw [ofJson?, toJson, Json.record?_object]
  · simp [List.lookup_cons, houtcomes, hresponses, hprocessing]
  · simp

theorem ItemResult.ofJson?_toJson (r : ItemResult) : ofJson? r.toJson = some r := by
  have hresponses := @Json.list?_map _ _ _ r.responses fun v _ => v.ofJson?_toJson
  have houtcomes := @Json.list?_map _ _ _ r.outcomes fun v _ => v.ofJson?_toJson
  rw [ofJson?, toJson, Json.record?_object]
  · simp [List.lookup_cons, hresponses, houtcomes]
  · simp

theorem TestResult.ofJson?_toJson (r : TestResult) : ofJson? r.toJson = some r := by
  have houtcomes := @Json.list?_map _ _ _ r.outcomes fun v _ => v.ofJson?_toJson
  rw [ofJson?, toJson, Json.record?_object]
  · simp [List.lookup_cons, houtcomes]
  · simp

theorem AssessmentResult.ofJson?_toJson (r : AssessmentResult) : ofJson? r.toJson = some r := by
  have hitems := @Json.list?_map _ _ _ r.itemResults fun i _ => i.ofJson?_toJson
  have htests := @Json.list?_map _ _ _ r.testResults fun t _ => t.ofJson?_toJson
  rw [ofJson?, toJson, Json.record?_object]
  · simp [List.lookup_cons, hitems, htests]
  · simp

end documents

end Rubric
