import Rubric.Proofs.Matching
import Rubric.Proofs.Names
import Rubric.Proofs.Shapes

namespace Rubric

namespace Variable

/-- The texts that a variable holds, wherever its shape has put them. -/
def content (v : Variable) : List String :=
  (v.scalar.toList.filter fun text => !text.isEmpty) ++ v.members

end Variable

/-- Texts in the shape of a cardinality: the first alone, empty when there is none, or all. -/
def Cardinality.arranged : Cardinality → List String → List String
  | .single, texts => [texts.headD ""]
  | _, texts => texts

/-- Whether texts hold the same in the shape of a cardinality; only a bag leaves the order open. -/
def Cardinality.Agree : Cardinality → List String → List String → Prop
  | .multiple, xs, ys => xs.Perm ys
  | _, xs, ys => xs = ys

namespace ResponseDeclaration

/-- The texts of the declared correct response, which has two places to stand in. -/
def correctTexts (d : ResponseDeclaration) : List String :=
  match d.cardinality with
  | .single => (d.correct.or d.correctMembers.head?).toList
  | _ => if d.correctMembers.isEmpty then d.correct.toList else d.correctMembers

/-- A declaration with a correct response in one place or the other. -/
def HasCorrect (d : ResponseDeclaration) : Prop :=
  d.correct.isSome = true ∨ d.correctMembers ≠ []

variable {d : ResponseDeclaration}

theorem exists_correctValue? (h : d.HasCorrect) :
    ∃ c, d.correctValue? = some c ∧ c.baseType = d.baseType ∧ c.cardinality = d.cardinality ∧
      c.texts = d.correctTexts := by
  obtain ⟨identifier, baseType, cardinality, correct, members⟩ := d
  cases cardinality with
  | single =>
    cases correct with
    | some text => exact ⟨_, rfl, rfl, rfl, rfl⟩
    | none =>
      cases members with
      | nil => exact absurd h (by simp [HasCorrect])
      | cons text rest => exact ⟨_, rfl, rfl, rfl, rfl⟩
  | multiple => exact ⟨_, rfl, rfl, rfl, rfl⟩
  | ordered => exact ⟨_, rfl, rfl, rfl, rfl⟩

end ResponseDeclaration

namespace Variable

theorem filter_getD_isEmpty (x : Option String) :
    ([x.getD ""].filter fun text => !text.isEmpty) =
      x.toList.filter fun text => !text.isEmpty := by
  cases x <;> rfl

theorem headD_filter_isEmpty (x : Option String) :
    (x.toList.filter fun text => !text.isEmpty).headD "" = x.getD "" := by
  cases x with
  | none => rfl
  | some text =>
    by_cases h : text = ""
    · simp [h]
    · simp [h]

theorem value_shapedBy {v : Variable} (h : v.WellShaped) (d : ResponseDeclaration) :
    (v.shapedBy d).value.baseType = d.baseType ∧
      (v.shapedBy d).value.cardinality = d.cardinality ∧
      (v.shapedBy d).value.texts = d.cardinality.arranged v.content := by
  obtain ⟨identifier, baseType, cardinality, scalar, members⟩ := v
  obtain ⟨name, declaredType, declared, correct, correctMembers⟩ := d
  cases cardinality with
  | single =>
    obtain rfl : members = [] := h
    cases declared with
    | single =>
      refine ⟨rfl, rfl, ?_⟩
      simp only [content, Cardinality.arranged, List.append_nil, headD_filter_isEmpty]
      rfl
    | multiple =>
      refine ⟨rfl, rfl, ?_⟩
      exact (filter_getD_isEmpty scalar).trans (List.append_nil _).symm
    | ordered =>
      refine ⟨rfl, rfl, ?_⟩
      exact (filter_getD_isEmpty scalar).trans (List.append_nil _).symm
  | multiple =>
    obtain rfl : scalar = none := h
    cases declared with
    | single =>
      refine ⟨rfl, rfl, ?_⟩
      exact congrArg (fun text => [text]) List.headD_eq_head?_getD.symm
    | multiple => exact ⟨rfl, rfl, rfl⟩
    | ordered => exact ⟨rfl, rfl, rfl⟩
  | ordered =>
    obtain rfl : scalar = none := h
    cases declared with
    | single =>
      refine ⟨rfl, rfl, ?_⟩
      exact congrArg (fun text => [text]) List.headD_eq_head?_getD.symm
    | multiple => exact ⟨rfl, rfl, rfl⟩
    | ordered => exact ⟨rfl, rfl, rfl⟩

end Variable

/-- A node that compares the variable of an identifier with its declared correct response. -/
structure Node.MatchesCorrect (node : Node) (identifier : String) : Prop where
  matching : node.comparison? = some .matching
  operands : ∃ response correct, node.children = [response, correct] ∧
    (response.expression? = some .variableValue ∧ response.identifier = identifier) ∧
    (correct.expression? = some .correct ∧ correct.identifier = identifier)

def Node.matchCorrect (identifier : String) : Node where
  name := "match"
  children := [.reading identifier,
    { name := "correct", attributes := .ofList [("identifier", identifier)] }]

theorem Node.matchesCorrect_matchCorrect (identifier : String) :
    (matchCorrect identifier).MatchesCorrect identifier where
  matching := (by decide +kernel : Comparison.ofTag? (normalTag "match") = some .matching)
  operands := by
    have hread (n : Node) (h : n.attributes = .ofList [("identifier", identifier)]) :
        n.identifier = identifier := by
      rw [Node.identifier, attribute?, h]
      simp [Dictionary.ofList, Dictionary.insert, Dictionary.insertEntry]
    refine ⟨_, _, rfl, ⟨?_, ?_⟩, ?_, ?_⟩
    · exact (by decide +kernel : Expression.ofTag? (normalTag "variable") = some .variableValue)
    · exact hread _ rfl
    · exact (by decide +kernel : Expression.ofTag? (normalTag "correct") = some .correct)
    · exact hread _ rfl

def Scope.ofResponse (d : ResponseDeclaration) (responses : List Variable) : Scope where
  subject := .item { identifier := "ITM-1", responses := [d] } responses
  registry := {}
  config := {}
  label := "ITM-1 - R1"

namespace Scope

variable {s : Scope} {item : Item} {responses : List Variable} {store : Store} {node : Node}
  {identifier : String} {d : ResponseDeclaration} {v c : Value}

theorem resolve_of_variable (h : node.expression? = some .variableValue) (store : Store) :
    s.resolve store node = some <$> s.variableValue store node := by
  cases node
  simp only [resolve, h]

theorem resolve_of_correct (h : node.expression? = some .correct) (store : Store) :
    s.resolve store node = s.correctValue? node := by
  cases node
  simp only [resolve, h]

theorem variableValue_of_responseValue? (hs : s.subject = .item item responses)
    (hnamed : node.identifier ≠ "")
    (hv : responseValue? item responses store node.identifier = some v) :
    s.variableValue store node = pure v := by
  rw [variableValue, if_neg (by simpa using hnamed), hs]
  simp only [hv]

theorem variableValue_unnamed (h : node.identifier = "") :
    s.variableValue store node = s.fallback .variableUnnamed (unresolved "") := by
  rw [variableValue, if_pos (by simp [h]), h]

theorem correctValue?_of_some (hs : s.subject = .item item responses)
    (hd : item.response? node.identifier = some d) (hc : d.correctValue? = some c) :
    s.correctValue? node = pure (some (c.named node.identifier)) := by
  rw [correctValue?, hs]
  simp only [hd, hc]

theorem correctValue?_of_none (hs : s.subject = .item item responses)
    (hd : item.response? node.identifier = some d) (hc : d.correctValue? = none) :
    s.correctValue? node = s.fallback (.correctMissing node.identifier) none := by
  rw [correctValue?, hs]
  simp only [hd, hc]

theorem holds_of_matchesCorrect (hs : s.subject = .item item responses)
    (h : node.MatchesCorrect identifier) (hd : item.response? identifier = some d)
    (hc : d.correctValue? = some c) (store : Store) :
    ∃ response : Node, response.identifier = identifier ∧
      s.holds store node =
        s.variableValue store response >>= fun v =>
          s.matchValues node.name v (c.named identifier) := by
  obtain ⟨hmatching, response, correct, hchildren, ⟨hresponse, hid⟩, hcorrect, rfl⟩ := h
  refine ⟨response, hid, ?_⟩
  rw [holds_of_comparison hmatching, hchildren]
  simp only [resolveAll, resolve_of_variable hresponse, resolve_of_correct hcorrect,
    correctValue?_of_some hs hd hc, pure_bind, bind_assoc, bind_map_left, Option.toList_some,
    List.singleton_append, comparisonHolds_matching]

theorem responseValue?_of_recorded {v : Variable} (hd : item.response? identifier = some d)
    (hv : Variable.find? responses identifier = some v) :
    responseValue? item responses store identifier = some (v.shapedBy d).value := by
  simp [responseValue?, hd, hv]

theorem exists_responseValue? (hd : item.response? identifier = some d) (responses : List Variable)
    (store : Store) : ∃ v, responseValue? item responses store identifier = some v := by
  simp only [responseValue?, hd]
  generalize (Variable.find? responses identifier).map _ = recorded
  generalize (Variable.find? store identifier).map _ = written
  generalize (item.outcome? identifier).map _ = declared
  cases recorded <;> cases written <;> cases declared <;> exact ⟨_, rfl⟩

theorem agree_iff {cardinality : Cardinality} {texts xs ys : List String} {baseType : BaseType}
    (hx : (cardinality.arranged texts).mapM (canonicalText? baseType) = some xs) :
    (if cardinality = .ordered then xs = ys else xs.Perm ys) ↔ cardinality.Agree xs ys := by
  cases cardinality with
  | single =>
    obtain ⟨x, rfl⟩ : ∃ x, xs = [x] := by
      rw [Cardinality.arranged] at hx
      generalize texts.headD "" = text at hx
      cases hc : canonicalText? baseType text with
      | none => simp [hc] at hx
      | some x => exact ⟨x, by simpa [hc] using hx.symm⟩
    simp [Cardinality.Agree]
  | multiple => simp [Cardinality.Agree]
  | ordered => simp [Cardinality.Agree]

/-- A recorded response matches the declared correct one exactly when its texts, in the shape of the
declaration, and the declared ones all have canonical forms, and these agree. -/
theorem recorded_response_matches_iff (hs : s.subject = .item item responses)
    (h : node.MatchesCorrect identifier) (hnamed : identifier ≠ "")
    (hd : item.response? identifier = some d) (hcorrect : d.HasCorrect) {v : Variable}
    (hv : Variable.find? responses identifier = some v) (hshape : v.WellShaped) :
    (s.holds store node).value = true ↔
      ∃ xs ys, (d.cardinality.arranged v.content).mapM (canonicalText? d.baseType) = some xs ∧
        d.correctTexts.mapM (canonicalText? d.baseType) = some ys ∧ d.cardinality.Agree xs ys := by
  obtain ⟨c, hc, hcbase, hccard, hctexts⟩ := ResponseDeclaration.exists_correctValue? hcorrect
  obtain ⟨hvbase, hvcard, hvtexts⟩ := Variable.value_shapedBy hshape d
  obtain ⟨response, rfl, hholds⟩ := holds_of_matchesCorrect hs h hd hc store
  rw [hholds, variableValue_of_responseValue? hs hnamed (responseValue?_of_recorded hd hv),
    pure_bind, value_matchValues_iff]
  have hleft : canonicalTexts? (v.shapedBy d).value =
      (d.cardinality.arranged v.content).mapM (canonicalText? d.baseType) := by
    rw [canonicalTexts?, hvbase, hvtexts]
  have hright : canonicalTexts? (c.named response.identifier) =
      d.correctTexts.mapM (canonicalText? d.baseType) := by
    rw [← hctexts, ← hcbase]
    rfl
  have hcard : (c.named response.identifier).cardinality = d.cardinality := hccard
  have hbase : (c.named response.identifier).baseType = d.baseType := hcbase
  rw [hvbase, hbase, hvcard, hcard, hleft, hright]
  simp only [or_self]
  constructor
  · rintro ⟨-, xs, ys, hx, hy, hagree⟩
    exact ⟨xs, ys, hx, hy, (agree_iff hx).1 hagree⟩
  · rintro ⟨xs, ys, hx, hy, hagree⟩
    exact ⟨trivial, xs, ys, hx, hy, (agree_iff hx).2 hagree⟩

/-- A bag of choices whose correct response was recorded as a sequence of strings. -/
theorem recorded_sequence_matches_bag :
    let d : ResponseDeclaration :=
      { identifier := "RESPONSE", baseType := .identifier, cardinality := .multiple
        correctMembers := ["A", "C"] }
    let v : Variable := .container "RESPONSE" .string .ordered ["C", "A"]
    d.HasCorrect ∧ v.WellShaped ∧
      ((ofResponse d [v]).holds [] (.matchCorrect "RESPONSE")).value = true := by
  intro d v
  have hcorrect : d.HasCorrect := .inr (List.cons_ne_nil _ _)
  have hshape : v.WellShaped := rfl
  refine ⟨hcorrect, hshape, ?_⟩
  rw [recorded_response_matches_iff rfl (Node.matchesCorrect_matchCorrect "RESPONSE") (by decide)
    rfl hcorrect rfl hshape]
  exact ⟨["C", "A"], ["A", "C"], rfl, rfl, List.Perm.swap "A" "C" []⟩

/-- The variable of the empty identifier is never read, not even when a response has it. -/
theorem unnamed_response_not_matched :
    let d : ResponseDeclaration :=
      { identifier := "", baseType := .identifier, correct := some "A" }
    let v : Variable := .single "" .identifier "A"
    let item : Item := { identifier := "ITM-1", responses := [d] }
    (ofResponse d [v]).subject = .item item [v] ∧ (Node.matchCorrect "").MatchesCorrect "" ∧
      item.response? "" = some d ∧ d.HasCorrect ∧
      Variable.find? [v] "" = some v ∧ v.WellShaped ∧
      ((ofResponse d [v]).holds [] (.matchCorrect "")).value = false ∧
      ∃ xs ys, (d.cardinality.arranged v.content).mapM (canonicalText? d.baseType) = some xs ∧
        d.correctTexts.mapM (canonicalText? d.baseType) = some ys ∧ d.cardinality.Agree xs ys := by
  intro d v item
  refine ⟨rfl, Node.matchesCorrect_matchCorrect "", rfl, .inl rfl, rfl, rfl, by decide +kernel, ?_⟩
  exact ⟨["A"], ["A"], by decide +kernel, rfl, rfl⟩

theorem holds_of_correctMissing (hs : s.subject = .item item responses)
    (h : node.MatchesCorrect identifier) (hd : item.response? identifier = some d)
    (hc : d.correctValue? = none) (store : Store) :
    (s.holds store node).value = false ∧
      .problem s.label (.correctMissing identifier) ∈ (s.holds store node).log := by
  obtain ⟨hmatching, response, correct, hchildren, ⟨hresponse, hid⟩, hcorrect, rfl⟩ := h
  rw [holds_of_comparison hmatching, hchildren]
  simp [resolveAll, resolve_of_variable hresponse, resolve_of_correct hcorrect,
    correctValue?_of_none hs hd hc, comparisonHolds, pair?]

theorem value_matchValues_of_texts_eq_nil {tag : String} (hc : c.texts = []) :
    (s.matchValues tag v c).value = true ↔ v.baseType = c.baseType ∧ v.texts = [] := by
  have hcanonical := canonicalTexts?_eq_some_nil_iff.2 hc
  rw [value_matchValues_iff, ← canonicalTexts?_eq_some_nil_iff, hcanonical]
  constructor
  · rintro ⟨hbase, xs, ys, hx, hy, hagree⟩
    obtain rfl := Option.some.inj hy
    split at hagree
    · exact ⟨hbase, hagree ▸ hx⟩
    · exact ⟨hbase, hagree.eq_nil ▸ hx⟩
  · rintro ⟨hbase, hx⟩
    exact ⟨hbase, [], [], hx, rfl, by simp⟩

theorem unnamed_fails (hs : s.subject = .item item responses) (h : node.MatchesCorrect "")
    (hd : item.response? "" = some d) (hc : d.correctValue? = some c) (htexts : c.texts = [])
    (store : Store) :
    (s.holds store node).value = false ∧
      .problem s.label .variableUnnamed ∈ (s.holds store node).log := by
  obtain ⟨response, hid, hholds⟩ := holds_of_matchesCorrect hs h hd hc store
  rw [hholds, variableValue_unnamed hid]
  constructor
  · have hnil : (c.named "").texts = [] := htexts
    rw [Logged.value_bind, ← Bool.not_eq_true, value_matchValues_of_texts_eq_nil hnil]
    rintro ⟨-, hnil⟩
    cases hnil
  · exact List.mem_append_left _ (.head _)

theorem named_fails_iff (hs : s.subject = .item item responses)
    (h : node.MatchesCorrect identifier) (hnamed : identifier ≠ "")
    (hd : item.response? identifier = some d) (hc : d.correctValue? = some c)
    (htexts : c.texts = []) (hv : responseValue? item responses store identifier = some v) :
    ((∃ e ∈ (s.holds store node).log.diagnostics, e.severity = .error) ↔
      v.baseType ≠ c.baseType ∨ canonicalTexts? v = none) ∧
    ((s.holds store node).value = true ↔ v.baseType = c.baseType ∧ v.texts = []) := by
  obtain ⟨response, rfl, hholds⟩ := holds_of_matchesCorrect hs h hd hc store
  have hnil : (c.named response.identifier).texts = [] := htexts
  have hcanonical := canonicalTexts?_eq_some_nil_iff.2 hnil
  rw [hholds, variableValue_of_responseValue? hs hnamed hv, pure_bind, error_matchValues_iff,
    value_matchValues_of_texts_eq_nil hnil]
  refine ⟨?_, Iff.rfl⟩
  simp only [hcanonical, reduceCtorEq, or_false]
  exact Iff.rfl

/-- Without a declared correct response a match with it fails with an error, unless the response is
a container whose value has the declared base type and texts with canonical forms only; it holds
when that value has no texts. -/
theorem correctMissing_fails_iff (hs : s.subject = .item item responses)
    (h : node.MatchesCorrect identifier) (hd : item.response? identifier = some d)
    (hcorrect : d.correct = none) (hmembers : d.correctMembers = []) (store : Store) :
    let run := s.holds store node
    let value := responseValue? item responses store identifier
    (run.value = false ∧ (∃ e ∈ run.log.diagnostics, e.severity = .error) ↔
      d.cardinality = .single ∨ identifier = "" ∨
        ∀ v ∈ value, v.baseType ≠ d.baseType ∨ canonicalTexts? v = none) ∧
    (run.value = true ↔
      d.cardinality ≠ .single ∧ identifier ≠ "" ∧
        ∃ v ∈ value, v.baseType = d.baseType ∧ v.texts = []) := by
  intro run value
  by_cases hsingle : d.cardinality = .single
  · have hnone : d.correctValue? = none := by
      simp [ResponseDeclaration.correctValue?, hsingle, hcorrect, hmembers]
    obtain ⟨hfalse, hlog⟩ := holds_of_correctMissing hs h hd hnone store
    refine ⟨iff_of_true ⟨hfalse, exists_error_of_problem hlog rfl⟩ (.inl hsingle), ?_⟩
    simp [run, hfalse, hsingle]
  obtain ⟨c, hc, hbase, htexts⟩ : ∃ c, d.correctValue? = some c ∧ c.baseType = d.baseType ∧
      c.texts = [] := by
    obtain ⟨name, baseType, cardinality, correct, members⟩ := d
    obtain rfl : correct = none := hcorrect
    obtain rfl : members = [] := hmembers
    cases cardinality with
    | single => exact absurd rfl hsingle
    | multiple => exact ⟨_, rfl, rfl, rfl⟩
    | ordered => exact ⟨_, rfl, rfl, rfl⟩
  by_cases hnamed : identifier = ""
  · subst hnamed
    obtain ⟨hfalse, hlog⟩ := unnamed_fails hs h hd hc htexts store
    refine ⟨iff_of_true ⟨hfalse, exists_error_of_problem hlog rfl⟩ (.inr (.inl rfl)), ?_⟩
    simp [run, hfalse]
  obtain ⟨v, hv⟩ := exists_responseValue? hd responses store
  obtain ⟨herror, htrue⟩ := named_fails_iff hs h hnamed hd hc htexts hv
  rw [hbase] at herror htrue
  have hvalue : value = some v := hv
  have hfalse : v.baseType ≠ d.baseType ∨ canonicalTexts? v = none → run.value = false := by
    intro hwrong
    rw [← Bool.not_eq_true, htrue]
    rintro ⟨hsame, hnil⟩
    rw [canonicalTexts?_eq_some_nil_iff.2 hnil] at hwrong
    exact hwrong.elim (fun hne => hne hsame) nofun
  constructor
  · simp only [run, herror, hsingle, hnamed, hvalue, false_or, Option.mem_some_iff,
      forall_eq']
    exact ⟨And.right, fun hwrong => ⟨hfalse hwrong, hwrong⟩⟩
  · simp [run, htrue, hsingle, hnamed, hvalue]

theorem correctMissing_single_fails :
    let d : ResponseDeclaration := { identifier := "RESPONSE", baseType := .identifier }
    let run := (ofResponse d []).holds [] (.matchCorrect "RESPONSE")
    run.value = false ∧ ∃ e ∈ run.log.diagnostics, e.severity = .error := by
  intro d run
  obtain ⟨hfails, -⟩ := correctMissing_fails_iff (s := ofResponse d []) rfl
    (Node.matchesCorrect_matchCorrect "RESPONSE") rfl rfl rfl []
  exact hfails.2 (.inl rfl)

/-- A response nobody gave to a container matches the correct response that nobody declared. -/
theorem correctMissing_container_holds :
    let d : ResponseDeclaration :=
      { identifier := "RESPONSE", baseType := .identifier, cardinality := .multiple }
    let run := (ofResponse d []).holds [] (.matchCorrect "RESPONSE")
    (Node.matchCorrect "RESPONSE").MatchesCorrect "RESPONSE" ∧
      ¬ (run.value = false ∧ ∃ e ∈ run.log.diagnostics, e.severity = .error) ∧
      run.value = true ∧ run.log = [] := by
  intro d run
  have htrue : run.value = true := by decide +kernel
  refine ⟨Node.matchesCorrect_matchCorrect "RESPONSE", ?_, htrue, by decide +kernel⟩
  rw [htrue]
  exact fun h => Bool.noConfusion h.1

end Scope

end Rubric
