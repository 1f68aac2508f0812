import Rubric.Engine
import Rubric.Proofs.Registrations
import Rubric.Proofs.Subjects

namespace Rubric

/-- The other way round from the order of registration. -/
def Arrangement.reversed : Arrangement where
  arrange entries := entries.reverse
  perm := List.reverse_perm

namespace Registry

variable {r : Registry} {a : Arrangement}

/-- No two operators share a local name. -/
def Unambiguous (r : Registry) : Prop :=
  (r.entries.map fun e => Text.afterLast ':' e.1).Nodup

/-- Without shared local names it makes no difference in which order the operators are met. -/
theorem Unambiguous.find?_arranged (h : r.Unambiguous) (a : Arrangement) :
    (r.arranged a).find? = r.find? := by
  have hperm := (a.perm r.entries).trans (r.arrangement.perm r.entries).symm
  have hnodup : ((a.arrange r.entries).map fun e => Text.afterLast ':' e.1).Nodup :=
    ((a.perm r.entries).map _).nodup_iff.2 h
  funext name
  simp only [find?, arranged, find?_key_eq_of_perm hperm hnodup]

theorem arranged_registerAll (operators : List CustomOperator) :
    (r.registerAll operators).arranged a = (r.arranged a).registerAll operators := by
  induction operators generalizing r with
  | nil => rfl
  | cons o rest ih => exact ih

theorem unambiguous_standard (checker : EquivalenceChecker) : (standard checker).Unambiguous := by
  have htrim : Text.lowerAscii "depcp:Trim" = "depcp:trim" := by decide +kernel
  have hequal : Text.lowerAscii "depcp:MathEqual" = "depcp:mathequal" := by decide +kernel
  have hentries : (standard checker).entries =
      [("depcp:trim", .trim), ("depcp:mathequal", .mathEqual checker)] := by
    simp [standard, registerAll, register, put, CustomOperator.trim, CustomOperator.mathEqual,
      htrim, hequal]
  rw [Unambiguous, hentries]
  change (["depcp:trim", "depcp:mathequal"].map (Text.afterLast ':')).Nodup
  decide +kernel

/-- With shared local names it does make a difference. -/
example :
    let shout : CustomOperator := { name := "acme:Trim", apply := fun _ => pure (.string "") }
    let r := (standard .textual).register shout
    (r.find? "Trim").map CustomOperator.name = some "depcp:Trim" ∧
      ((r.arranged .reversed).find? "Trim").map CustomOperator.name = some "acme:Trim" := by
  decide

end Registry

namespace Environment

/-- Environments of one configuration that find the same operators. -/
structure SameSettings (env env' : Environment) : Prop where
  config : env'.config = env.config
  operator? : env'.registry.find? = env.registry.find?

variable {env env' : Environment}

theorem SameSettings.scoreItem (h : env.SameSettings env') (item : Item) (result : String)
    (r : ItemResult) : env'.scoreItem item result r = env.scoreItem item result r := by
  have hanswers : (env.itemScope item r.responses result).SameAnswers
      (env'.itemScope item r.responses result) Set.univ Set.univ :=
    Scope.sameAnswers_of_item ⟨rfl, h.config, h.operator?⟩ rfl rfl rfl rfl (Set.eqOn_refl _ _)
  simp only [Environment.scoreItem, Scope.process_eq_executeAll, hanswers.executeAll_eq_univ]

theorem SameSettings.scoreItems (h : env.SameSettings env') (items : List Item)
    (result : AssessmentResult) : env'.scoreItems items result = env.scoreItems items result := by
  have hitem (item : Item) (result : AssessmentResult) :
      env'.scoreItemIn item result = env.scoreItemIn item result := by
    have hscore := funext (h.scoreItem item result.identifier)
    simp only [scoreItemIn, hscore]
  induction items generalizing result with
  | nil => rfl
  | cons item rest ih => simp only [Environment.scoreItems, hitem, ih]

theorem SameSettings.scoreTest (h : env.SameSettings env') (test : Test)
    (result : AssessmentResult) : env'.scoreTest test result = env.scoreTest test result := by
  have hscore : env'.scoreTestResult test result.itemResults result.identifier =
      env.scoreTestResult test result.itemResults result.identifier := by
    have hanswers : (env.testScope test result.itemResults result.identifier).SameAnswers
        (env'.testScope test result.itemResults result.identifier) Set.univ Set.univ :=
      Scope.sameAnswers_of_itemRefs ⟨rfl, h.config, h.operator?⟩ rfl rfl rfl rfl
        (Set.eqOn_refl _ _)
    funext r
    simp only [scoreTestResult, Scope.process_eq_executeAll, hanswers.executeAll_eq_univ]
  simp only [Environment.scoreTest, hscore]

end Environment

namespace Engine

/-- Engines of the same operators and configuration find the same operators when they meet these in
the same order, and in any order when no two of them share a local name. -/
theorem sameSettings_of_assemble {input input' : EngineInput}
    (hoperators : input'.operators = input.operators) (hchecker : input'.checker = input.checker)
    (hconfig : input'.config = input.config)
    (h : input'.arrangement = input.arrangement ∨
      (assemble input).environment.registry.Unambiguous) :
    (assemble input).environment.SameSettings (assemble input').environment := by
  refine ⟨hconfig, ?_⟩
  simp only [assemble, hoperators, hchecker]
  rcases h with harrangement | hlocal
  · rw [harrangement]
  · exact hlocal.find?_arranged input'.arrangement

/-- The registry of an engine is one that registering has brought about. -/
theorem registered_assemble (input : EngineInput) :
    Registry.Registered (assemble input).environment.registry
      ([.trim, .mathEqual input.checker] ++ input.operators) := by
  have hregistry : (assemble input).environment.registry =
      ((Registry.standard input.checker).arranged input.arrangement).registerAll
        input.operators := Registry.arranged_registerAll input.operators
  rw [hregistry]
  exact (Registry.Registered.standard input.checker input.arrangement).registerAll input.operators

theorem unambiguous_assemble {input : EngineInput} (h : input.operators = []) :
    (assemble input).environment.registry.Unambiguous := by
  change ((Registry.standard input.checker).registerAll input.operators).Unambiguous
  rw [h]
  exact Registry.unambiguous_standard input.checker

end Engine

end Rubric
