import Rubric.Evaluate
import Rubric.Proofs.Names
import Rubric.Proofs.Writes

namespace Rubric

theorem Logged.mk_bind {α β : Type} (a : α) (log : Log) (f : α → Logged β) :
    (⟨a, log⟩ : Logged α) >>= f = ⟨(f a).value, log ++ (f a).log⟩ := rfl

namespace Scope

variable {s s' : Scope} {A W : Set String} {store store' : Store}

theorem outcome?_identifier {identifier : String} {d : OutcomeDeclaration}
    (h : s.outcome? identifier = some d) : d.identifier = identifier := by
  unfold outcome? at h
  split at h
  · exact OutcomeDeclaration.identifier_of_find? h
  · exact OutcomeDeclaration.identifier_of_find? h

/-- Scopes under one label and configuration that find the same operators. -/
structure SameSettings (s s' : Scope) : Prop where
  label : s'.label = s.label
  config : s'.config = s.config
  operator? : s'.registry.find? = s.registry.find?

namespace SameSettings

variable (h : s.SameSettings s') (tag : String) (node : Node) (values : List Value)

include h

theorem eq_mk : s' = ⟨s'.subject, s'.registry, s.config, s.label⟩ := by
  rw [← h.config, ← h.label]

theorem fallback {α : Type} (problem : Problem) (default : α) :
    s'.fallback problem default = s.fallback problem default := by
  rw [h.eq_mk]
  rfl

theorem literal : s'.literal node = s.literal node := by
  simp only [Scope.literal, h.fallback]

theorem containerOf? (cardinality : Cardinality) :
    s'.containerOf? tag cardinality values = s.containerOf? tag cardinality values := by
  rw [h.eq_mk]
  rfl

theorem applyCustom : s'.applyCustom node values = s.applyCustom node values := by
  simp only [Scope.applyCustom, h.operator?, h.fallback]

theorem numbersOf (texts : List String) : s'.numbersOf tag texts = s.numbersOf tag texts := by
  induction texts with
  | nil => rfl
  | cons text rest ih => simp only [Scope.numbersOf, ih, h.fallback]

theorem calculateFrom (kind : Calculation) :
    s'.calculateFrom tag kind values = s.calculateFrom tag kind values := by
  simp only [Scope.calculateFrom, h.numbersOf]
  rw [h.eq_mk]
  rfl

theorem pair? : s'.pair? tag values = s.pair? tag values := by
  rw [h.eq_mk]
  rfl

theorem comparisonHolds (kind : Comparison) :
    s'.comparisonHolds node kind values = s.comparisonHolds node kind values := by
  rw [h.eq_mk]
  rfl

theorem sameText (left right : Value) :
    s'.sameText node left right = s.sameText node left right := by
  rw [h.eq_mk]
  rfl

theorem occursIn (left right : Value) :
    s'.occursIn node left right = s.occursIn node left right := by
  rw [h.eq_mk]
  rfl

theorem isNullValue : s'.isNullValue tag values = s.isNullValue tag values := by
  rw [h.eq_mk]
  rfl

theorem valueHolds (value : Option Value) : s'.valueHolds tag value = s.valueHolds tag value := by
  simp only [Scope.valueHolds, h.fallback]

theorem assigned? : s'.assigned? tag values = s.assigned? tag values := by
  rw [h.eq_mk]
  rfl

theorem remarkCut (body : List Node) : s'.remarkCut body = s.remarkCut body := by
  rw [h.eq_mk]
  rfl

end SameSettings

/-- A scope of the same settings gives the same answers as another: on variables with names in `A`
when the stores agree on `A`, on the declarations of names in `W`, and on all correct responses and
aggregates. -/
structure SameAnswers (s s' : Scope) (A W : Set String) : Prop extends s.SameSettings s' where
  variableValue : ∀ {store store' : Store},
    Set.EqOn (Variable.find? store) (Variable.find? store') A →
      ∀ node : Node, node.identifier ∈ A →
        s'.variableValue store' node = s.variableValue store node
  correctValue? : ∀ node, s'.correctValue? node = s.correctValue? node
  aggregate? : ∀ node, s'.aggregate? node = s.aggregate? node
  outcome? : Set.EqOn s'.outcome? s.outcome? W

mutual

theorem SameAnswers.resolve (h : s.SameAnswers s' A W)
    (hstores : Set.EqOn (Variable.find? store) (Variable.find? store') A) :
    ∀ node : Node, node.Within A W → s'.resolve store' node = s.resolve store node
  | ⟨name, attributes, children, text⟩, hnode => by
    have hall := h.resolveAll hstores children fun c hc => hnode.child hc
    cases he : Node.expression? ⟨name, attributes, children, text⟩ with
    | none => simp only [Scope.resolve, he, hall, h.calculateFrom, h.fallback]
    | some kind =>
      cases kind with
      | variableValue =>
        have hvalue := h.variableValue hstores _ (hnode.identifier_mem_of_variable he)
        simp only [Scope.resolve, he, hvalue]
      | baseValue => simp only [Scope.resolve, he, h.literal]
      | correct => simp only [Scope.resolve, he, h.correctValue?]
      | ordered => simp only [Scope.resolve, he, hall, h.containerOf?]
      | multiple => simp only [Scope.resolve, he, hall, h.containerOf?]
      | customOperator => simp only [Scope.resolve, he, hall, h.applyCustom]
      | testVariables => simp only [Scope.resolve, he, h.aggregate?]

theorem SameAnswers.resolveAll (h : s.SameAnswers s' A W)
    (hstores : Set.EqOn (Variable.find? store) (Variable.find? store') A) :
    ∀ nodes : List Node, (∀ n ∈ nodes, n.Within A W) →
      s'.resolveAll store' nodes = s.resolveAll store nodes
  | [], _ => by simp only [Scope.resolveAll]
  | node :: rest, hnodes => by
    have hnode := h.resolve hstores node (hnodes node (.head _))
    have hrest := h.resolveAll hstores rest fun n hn => hnodes n (.tail _ hn)
    simp only [Scope.resolveAll, hnode, hrest]

end

mutual

theorem SameAnswers.holds (h : s.SameAnswers s' A W)
    (hstores : Set.EqOn (Variable.find? store) (Variable.find? store') A) :
    ∀ node : Node, node.Within A W → s'.holds store' node = s.holds store node
  | ⟨name, attributes, children, text⟩, hnode => by
    have hchildren : ∀ c ∈ children, c.Within A W := fun c hc => hnode.child hc
    have hvalue := h.resolve hstores _ hnode
    have hvalues := h.resolveAll hstores children hchildren
    cases hc : Node.comparison? ⟨name, attributes, children, text⟩ with
    | some kind => simp only [Scope.holds, hc, hvalues, h.comparisonHolds]
    | none =>
      cases hp : Node.predicate? ⟨name, attributes, children, text⟩ with
      | none => simp only [Scope.holds, hc, hp, hvalue, h.valueHolds, h.fallback]
      | some kind =>
        cases kind with
        | stringMatch => simp only [Scope.holds, hc, hp, hvalues, h.pair?, h.sameText]
        | substring => simp only [Scope.holds, hc, hp, hvalues, h.pair?, h.occursIn]
        | isNull => simp only [Scope.holds, hc, hp, hvalues, h.isNullValue]
        | and =>
          have hall := h.holdsAll hstores children hchildren
          simp only [Scope.holds, hc, hp, hall, h.fallback]
        | or =>
          have hany := h.holdsAny hstores children hchildren
          simp only [Scope.holds, hc, hp, hany]
        | not =>
          have hnot := h.holdsNot hstores name children hchildren
          simp only [Scope.holds, hc, hp, hnot]

theorem SameAnswers.holdsAll (h : s.SameAnswers s' A W)
    (hstores : Set.EqOn (Variable.find? store) (Variable.find? store') A) :
    ∀ nodes : List Node, (∀ n ∈ nodes, n.Within A W) →
      s'.holdsAll store' nodes = s.holdsAll store nodes
  | [], _ => by simp only [Scope.holdsAll]
  | node :: rest, hnodes => by
    have hnode := h.holds hstores node (hnodes node (.head _))
    have hrest := h.holdsAll hstores rest fun n hn => hnodes n (.tail _ hn)
    simp only [Scope.holdsAll, hnode, hrest]

theorem SameAnswers.holdsAny (h : s.SameAnswers s' A W)
    (hstores : Set.EqOn (Variable.find? store) (Variable.find? store') A) :
    ∀ nodes : List Node, (∀ n ∈ nodes, n.Within A W) →
      s'.holdsAny store' nodes = s.holdsAny store nodes
  | [], _ => by simp only [Scope.holdsAny]
  | node :: rest, hnodes => by
    have hnode := h.holds hstores node (hnodes node (.head _))
    have hrest := h.holdsAny hstores rest fun n hn => hnodes n (.tail _ hn)
    simp only [Scope.holdsAny, hnode, hrest]

theorem SameAnswers.holdsNot (h : s.SameAnswers s' A W)
    (hstores : Set.EqOn (Variable.find? store) (Variable.find? store') A) (tag : String) :
    ∀ nodes : List Node, (∀ n ∈ nodes, n.Within A W) →
      s'.holdsNot store' tag nodes = s.holdsNot store tag nodes
  | [], _ => by simp only [Scope.holdsNot, h.fallback]
  | [node], hnodes => by
    have hnode := h.holds hstores node (hnodes node (.head _))
    simp only [Scope.holdsNot, hnode]
  | _ :: _ :: _, _ => by simp only [Scope.holdsNot, h.fallback]

end

theorem SameAnswers.calculate (h : s.SameAnswers s' A W)
    (hstores : Set.EqOn (Variable.find? store) (Variable.find? store') A) (kind : Calculation)
    {node : Node} (hnode : node.Within A W) :
    s'.calculate store' kind node = s.calculate store kind node := by
  have hall := h.resolveAll hstores node.children fun c hc => hnode.child hc
  simp only [Scope.calculate, hall, h.calculateFrom]

theorem SameAnswers.assignedValue? (h : s.SameAnswers s' A W)
    (hstores : Set.EqOn (Variable.find? store) (Variable.find? store') A) (identifier : String)
    {operands : List Node} (hoperands : ∀ n ∈ operands, n.Within A W) :
    s'.assignedValue? store' identifier operands =
      s.assignedValue? store identifier operands := by
  have hvalues := h.resolveAll hstores operands hoperands
  cases operands with
  | nil => simp only [Scope.assignedValue?, List.head?_nil, Option.bind_none, hvalues,
      h.assigned?]
  | cons first rest =>
    simp only [Scope.assignedValue?, List.head?_cons, Option.bind_some, hvalues, h.assigned?]
    cases first.calculation? with
    | none => rfl
    | some kind =>
      have hfirst := h.calculate hstores kind (hoperands first (.head _))
      simp only [Option.map_some, hfirst]

/-- Writes of a scope to outcomes out of `W`, each under its declaration there. -/
def Permits (s : Scope) (W : Set String) (ws : List Write) : Prop :=
  ∀ w ∈ ws, w.target ∈ W ∧ s.outcome? w.target = some w.declaration

theorem permits_nil : s.Permits W [] := by
  intro w hw
  cases hw

theorem Permits.append {us ws : List Write} (hu : s.Permits W us) (hw : s.Permits W ws) :
    s.Permits W (us ++ ws) := by
  intro w hmem
  rcases List.mem_append.1 hmem with hmem | hmem
  · exact hu w hmem
  · exact hw w hmem

/-- Two executions of a statement, from two stores, that match alike, record the same and make the
same writes. -/
def InStep (s : Scope) (W : Set String) (store store' : Store) (x x' : Logged (Bool × Store)) :
    Prop :=
  ∃ matched ws log, s.Permits W ws ∧ x = ⟨(matched, store.writeAll ws), log⟩ ∧
    x' = ⟨(matched, store'.writeAll ws), log⟩

/-- The same for bodies, which match nothing. -/
def InStepAll (s : Scope) (W : Set String) (store store' : Store) (x x' : Logged Store) : Prop :=
  ∃ ws log, s.Permits W ws ∧ x = ⟨store.writeAll ws, log⟩ ∧ x' = ⟨store'.writeAll ws, log⟩

theorem inStep_unchanged (matched : Bool) (log : Log) :
    s.InStep W store store' ⟨(matched, store), log⟩ ⟨(matched, store'), log⟩ :=
  ⟨matched, [], log, permits_nil, rfl, rfl⟩

theorem inStepAll_unchanged : s.InStepAll W store store' (pure store) (pure store') :=
  ⟨[], [], permits_nil, rfl, rfl⟩

theorem InStepAll.matched {x x' : Logged Store} (h : s.InStepAll W store store' x x') :
    s.InStep W store store' ((true, ·) <$> x) ((true, ·) <$> x') := by
  obtain ⟨ws, log, hws, rfl, rfl⟩ := h
  exact ⟨true, ws, _, hws, rfl, rfl⟩

theorem InStep.after {α : Type} {x x' : Logged (Bool × Store)} (h : s.InStep W store store' x x')
    (y : Logged α) : s.InStep W store store' (y >>= fun _ => x) (y >>= fun _ => x') := by
  obtain ⟨matched, ws, log, hws, rfl, rfl⟩ := h
  exact ⟨matched, ws, _, hws, rfl, rfl⟩

theorem SameAnswers.setOutcome (h : s.SameAnswers s' A W)
    (hstores : Set.EqOn (Variable.find? store) (Variable.find? store') A) {node : Node}
    (hnode : node.Within A W) (hs : node.statement? = some .setOutcomeValue) :
    s.InStep W store store' (s.setOutcome node store) (s'.setOutcome node store') := by
  unfold Scope.setOutcome
  cases hi : node.filledAttribute? "identifier" with
  | none =>
    simp only [h.fallback]
    exact inStep_unchanged false _
  | some identifier =>
    have hW : identifier ∈ W := hnode.identifier_mem_of_target hs hi
    simp only [h.outcome? hW, h.fallback]
    cases hd : s.outcome? identifier with
    | none => exact inStep_unchanged false _
    | some d =>
      have hvalue := h.assignedValue? hstores identifier fun c hc => hnode.child hc
      simp only [hvalue]
      cases s.assignedValue? store identifier node.children with
      | mk value log =>
        cases value with
        | none => exact inStep_unchanged false _
        | some v =>
          refine ⟨true, [⟨d, v⟩], log ++ [], ?_, rfl, rfl⟩
          intro w hw
          obtain rfl := List.mem_singleton.1 hw
          have hdi : d.identifier = identifier := outcome?_identifier hd
          simp only [Write.target, hdi]
          exact ⟨hW, hd⟩

mutual

theorem SameAnswers.execute (h : s.SameAnswers s' A W) :
    ∀ (node : Node) {store store' : Store},
      Set.EqOn (Variable.find? store) (Variable.find? store') A → node.Within A W →
        s.InStep W store store' (s.execute node store) (s'.execute node store')
  | ⟨name, attributes, children, text⟩, store, store', hstores, hnode => by
    have hchildren : ∀ c ∈ children, c.Within A W := fun c hc => hnode.child hc
    cases hs : Node.statement? ⟨name, attributes, children, text⟩ with
    | none =>
      simp only [Scope.execute, hs, h.fallback]
      exact inStep_unchanged false _
    | some kind =>
      cases kind with
      | condition =>
        simp only [Scope.execute, hs]
        exact h.executeFirst children hstores hchildren
      | branch =>
        simp only [Scope.execute, hs]
        exact h.executeBranch name children hstores hchildren
      | elseBranch =>
        simp only [Scope.execute, hs]
        exact h.executeBranch name children hstores hchildren
      | otherwise =>
        have hbody := h.executeUpTo s.config.maxBranchChildren children hstores hchildren
        simp only [Scope.execute, hs, h.remarkCut, h.config]
        exact hbody.matched.after (s.remarkCut children)
      | setOutcomeValue =>
        simp only [Scope.execute, hs]
        exact h.setOutcome hstores hnode hs

theorem SameAnswers.executeFirst (h : s.SameAnswers s' A W) :
    ∀ (nodes : List Node) {store store' : Store},
      Set.EqOn (Variable.find? store) (Variable.find? store') A → (∀ n ∈ nodes, n.Within A W) →
        s.InStep W store store' (s.executeFirst nodes store)
          (s'.executeFirst nodes store')
  | [], _, _, _, _ => inStep_unchanged false []
  | node :: rest, store, store', hstores, hnodes => by
    obtain ⟨matched, us, ulog, hus, hx, hx'⟩ := h.execute node hstores (hnodes node (.head _))
    simp only [Scope.executeFirst, hx, hx', Logged.mk_bind]
    cases matched with
    | true =>
      simp only [↓reduceIte]
      exact ⟨true, us, _, hus, rfl, rfl⟩
    | false =>
      -- The stores got the same writes so far, so they still agree on what is read.
      obtain ⟨matched, ws, wlog, hws, hy, hy'⟩ :=
        h.executeFirst rest (Store.eqOn_writeAll hstores us) fun n hn => hnodes n (.tail _ hn)
      refine ⟨matched, us ++ ws, ulog ++ wlog, hus.append hws, ?_, ?_⟩
      · simp only [Bool.false_eq_true, ↓reduceIte, hy, Store.writeAll_append]
      · simp only [Bool.false_eq_true, ↓reduceIte, hy', Store.writeAll_append]

theorem SameAnswers.executeBranch (h : s.SameAnswers s' A W) (tag : String) :
    ∀ (nodes : List Node) {store store' : Store},
      Set.EqOn (Variable.find? store) (Variable.find? store') A → (∀ n ∈ nodes, n.Within A W) →
        s.InStep W store store' (s.executeBranch tag nodes store)
          (s'.executeBranch tag nodes store')
  | [], _, _, _, _ => by
    simp only [Scope.executeBranch, h.fallback]
    exact inStep_unchanged false _
  | condition :: body, store, store', hstores, hnodes => by
    have hholds := h.holds hstores condition (hnodes condition (.head _))
    have hbody := h.executeUpTo s.config.maxBranchChildren body hstores
      fun n hn => hnodes n (.tail _ hn)
    simp only [Scope.executeBranch, hholds, h.remarkCut, h.config]
    cases s.holds store condition with
    | mk holds log =>
      cases holds with
      | false => exact inStep_unchanged false _
      | true =>
        exact (hbody.matched.after (s.remarkCut body)).after ⟨true, log⟩

theorem SameAnswers.executeUpTo (h : s.SameAnswers s' A W) (cap : Nat) :
    ∀ (nodes : List Node) {store store' : Store},
      Set.EqOn (Variable.find? store) (Variable.find? store') A → (∀ n ∈ nodes, n.Within A W) →
        s.InStepAll W store store' (s.executeUpTo cap nodes store)
          (s'.executeUpTo cap nodes store')
  | [], _, _, _, _ => by
    unfold Scope.executeUpTo
    exact inStepAll_unchanged
  | node :: rest, store, store', hstores, hnodes => by
    cases cap with
    | zero =>
      simp only [Scope.executeUpTo]
      exact inStepAll_unchanged
    | succ cap =>
      obtain ⟨_, us, ulog, hus, hx, hx'⟩ := h.execute node hstores (hnodes node (.head _))
      obtain ⟨ws, wlog, hws, hy, hy'⟩ :=
        h.executeUpTo cap rest (Store.eqOn_writeAll hstores us) fun n hn => hnodes n (.tail _ hn)
      refine ⟨us ++ ws, ulog ++ wlog, hus.append hws, ?_, ?_⟩
      · simp only [Scope.executeUpTo, hx, Logged.mk_bind, hy, Store.writeAll_append]
      · simp only [Scope.executeUpTo, hx', Logged.mk_bind, hy', Store.writeAll_append]

end

theorem SameAnswers.executeAll (h : s.SameAnswers s' A W) {nodes : List Node}
    (hstores : Set.EqOn (Variable.find? store) (Variable.find? store') A)
    (hnodes : ∀ n ∈ nodes, n.Within A W) :
    s.InStepAll W store store' (s.executeAll nodes store)
      (s'.executeAll nodes store') := by
  induction nodes generalizing store store' with
  | nil => exact inStepAll_unchanged
  | cons node rest ih =>
    obtain ⟨_, us, ulog, hus, hx, hx'⟩ := h.execute node hstores (hnodes node (.head _))
    obtain ⟨ws, wlog, hws, hy, hy'⟩ :=
      ih (Store.eqOn_writeAll hstores us) fun n hn => hnodes n (.tail _ hn)
    refine ⟨us ++ ws, ulog ++ wlog, hus.append hws, ?_, ?_⟩
    · simp only [Scope.executeAll, hx, Logged.mk_bind, hy, Store.writeAll_append]
    · simp only [Scope.executeAll, hx', Logged.mk_bind, hy', Store.writeAll_append]

end Scope

end Rubric
