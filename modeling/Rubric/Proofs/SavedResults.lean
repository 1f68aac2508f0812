import Rubric.Proofs.Decoding
import Rubric.Proofs.JsonText
import Rubric.Session
import Rubric.Storage

namespace Rubric

namespace Json

variable {levels : Nat}

theorem plain_ofText (x : Option String) : Plain levels (ofText x) := by
  cases x with
  | none => exact .null
  | some s => exact .string s

theorem plain_ofTexts (xs : List String) : Plain (levels + 1) (ofTexts xs) := by
  apply Plain.array
  simp only [List.forall_mem_map]
  exact fun s _ => .string s

theorem plain_member? {key : String} {j : Option Json} (h : ∀ i ∈ j, Plain levels i) :
    ∀ m ∈ member? key j, Plain levels m.2 := by
  cases j with
  | none => exact List.forall_mem_nil _
  | some i => exact List.forall_mem_singleton.2 (h i rfl)

theorem plain_map {α : Type} {xs : List α} {encode : α → Json}
    (h : ∀ x, Plain levels (encode x)) : Plain (levels + 1) (.array (xs.map encode)) := by
  apply Plain.array
  simp only [List.forall_mem_map]
  exact fun x _ => h x

end Json

section plain
variable {levels : Nat}

theorem Variable.plain (v : Variable) : Json.Plain (levels + 2) v.toJson := by
  apply Json.Plain.object
  simp only [List.cons_append, List.nil_append, List.forall_mem_cons]
  refine ⟨.string _, .string _, .string _, Json.plain_ofText _, Json.plain_member? ?_⟩
  intro i hi
  split at hi
  · cases hi
  · cases hi
    exact Json.plain_ofTexts _

theorem ItemResult.plain (r : ItemResult) : Json.Plain (levels + 4) r.toJson := by
  apply Json.Plain.object
  simp only [List.forall_mem_cons]
  exact ⟨.string _, Json.plain_map Variable.plain, Json.plain_map Variable.plain,
    List.forall_mem_nil _⟩

theorem TestResult.plain (r : TestResult) : Json.Plain (levels + 4) r.toJson := by
  apply Json.Plain.object
  simp only [List.forall_mem_cons]
  exact ⟨.string _, Json.plain_map Variable.plain, List.forall_mem_nil _⟩

theorem AssessmentResult.plain (r : AssessmentResult) : Json.Plain (levels + 6) r.toJson := by
  apply Json.Plain.object
  simp only [List.forall_mem_cons]
  exact ⟨.string _, Json.plain_map ItemResult.plain, Json.plain_map TestResult.plain,
    List.forall_mem_nil _⟩

theorem AssessmentResult.list?_ofText?_pretty (results : List AssessmentResult) :
    (Json.ofText? (Json.array (results.map toJson)).pretty).bind (Json.list? ofJson?) =
      some results := by
  rw [Json.ofText?_pretty (Json.plain_map (@AssessmentResult.plain 120))]
  exact Json.list?_map fun r _ => r.ofJson?_toJson

end plain

theorem fromUTF8?_toUTF8 (s : String) : String.fromUTF8? s.toUTF8 = some s := by
  rw [String.fromUTF8?, String.toUTF8_eq_toByteArray, dif_pos s.isValidUTF8]
  rfl

namespace Storage

variable {α : Type} {s t : Session} {path : String}

theorem run_bind {β : Type} (x : ExceptT Failure (StateM Session) α)
    (f : α → ExceptT Failure (StateM Session) β) (s : Session) :
    (x >>= f).run s = match x.run s with
      | (.ok a, u) => (f a).run u
      | (.error e, u) => (.error e, u) := by
  change ExceptT.bindCont f (x.run s).1 (x.run s).2 = _
  rcases x.run s with ⟨_ | _, u⟩ <;> rfl

theorem run_attempting (attempt : Attempt) (x : ExceptT Failure (StateM Session) α) (s : Session) :
    (attempting attempt x).run s =
      ((x.run s).1.mapError (Failure.within attempt), (x.run s).2) :=
  rfl

theorem run_ofFileResult (x : StateM Session (Except FileError α)) (s : Session) :
    (ofFileResult x).run s =
      ((x s).1.mapError fun e => { cause := .file e }, (x s).2) := by
  have hlift : (liftM x : ExceptT Failure (StateM Session) _).run s = (.ok (x s).1, (x s).2) := rfl
  rw [ofFileResult, run_bind, hlift]
  rcases x s with ⟨_ | _, u⟩ <;> rfl

theorem read_of_write {writing : Attempt} {text : String}
    (h : (attempting (m := StateM Session) writing (ofFileResult (Host.write path text))).run s =
      (.ok (), t)) :
    t.files.read path = .ok text.toUTF8 := by
  rw [run_attempting, run_ofFileResult] at h
  change (((Session.changing fun t => t.write path text.toUTF8) s).1.mapError _ |>.mapError _,
    ((Session.changing fun t => t.write path text.toUTF8) s).2) = _ at h
  unfold Session.changing at h
  split at h
  · next files hwrite =>
    cases h
    exact FileTree.read_write hwrite
  · cases h

/-- After a document has been saved its text stands under the path. -/
theorem read_of_saveDocument {writing : Attempt} {j : Json}
    (h : (saveDocument (m := StateM Session) writing path j).run s = (.ok (), t)) :
    t.files.read path = .ok j.pretty.toUTF8 := by
  unfold saveDocument at h
  cases hd : directoryOf? path with
  | none =>
    rw [hd] at h
    exact read_of_write h
  | some directory =>
    rw [hd] at h
    simp only [run_bind] at h
    split at h
    · exact read_of_write h
    · cases h

theorem run_readText {text : String} (h : s.files.read path = .ok text.toUTF8) :
    (readText (m := StateM Session) path).run s = (.ok text, s) := by
  have hread : (Host.read path : StateM Session _) s = (s.files.read path, s) := rfl
  rw [readText, run_bind, run_ofFileResult, hread, h]
  simp only [Except.mapError, fromUTF8?_toUTF8]
  rfl

theorem loadDocument_of_read {reading parsing : Attempt} {ofJson? : Json → Option α}
    {text : String} {a : α} (hread : s.files.read path = .ok text.toUTF8)
    (hparse : (Json.ofText? text).bind ofJson? = some a) :
    ((loadDocument (m := StateM Session) reading parsing ofJson? path).run s).1 = .ok a := by
  have hparsed : parseText (m := StateM Session) ofJson? text = pure a := by
    unfold parseText
    rw [hparse]
  rw [loadDocument, run_bind, run_attempting, run_readText hread]
  change ((attempting parsing (parseText (m := StateM Session) ofJson? text)).run s).1 = .ok a
  rw [hparsed]
  rfl

/-- What is written for a document reads back as the document, and results that were saved are
loaded as they were. -/
theorem documents_read_back :
    (∀ node : Node, Node.ofJson? node.toJson = some node) ∧
    (∀ v : Value, Value.ofJson? v.toJson = some v) ∧
    (∀ v : Variable, Variable.ofJson? v.toJson = some v) ∧
    (∀ d : OutcomeDeclaration, OutcomeDeclaration.ofJson? d.toJson = some d) ∧
    (∀ d : ResponseDeclaration, ResponseDeclaration.ofJson? d.toJson = some d) ∧
    (∀ item : Item, Item.ofJson? item.toJson = some item) ∧
    (∀ r : ItemResult, ItemResult.ofJson? r.toJson = some r) ∧
    (∀ r : TestResult, TestResult.ofJson? r.toJson = some r) ∧
    (∀ r : AssessmentResult, AssessmentResult.ofJson? r.toJson = some r) ∧
    ∀ (path : String) (results : List AssessmentResult) (s t : Session),
      (saveResults (m := StateM Session) path results).run s = (.ok (), t) →
        ((loadResults (m := StateM Session) path).run t).1 = .ok results := by
  refine ⟨Node.ofJson?_toJson, Value.ofJson?_toJson, Variable.ofJson?_toJson,
    OutcomeDeclaration.ofJson?_toJson, ResponseDeclaration.ofJson?_toJson, Item.ofJson?_toJson,
    ItemResult.ofJson?_toJson, TestResult.ofJson?_toJson, AssessmentResult.ofJson?_toJson, ?_⟩
  intro path results s t hsave
  apply loadDocument_of_read (read_of_saveDocument hsave)
  exact AssessmentResult.list?_ofText?_pretty results

/-- Results with a quote, a control character and a letter outside ASCII in their texts. -/
def quotedResults : List AssessmentResult :=
  [{ identifier := "R\"1\u0001é"
     itemResults := [{ identifier := "ITM-1"
                       responses := [{ identifier := "RESPONSE", scalar := some "a\\b\n" }] }] }]

theorem quotedResults_read_back :
    ∃ t, (saveResults (m := StateM Session) "results.json" quotedResults).run {} = (.ok (), t) ∧
      ((loadResults (m := StateM Session) "results.json").run t).1 = .ok quotedResults := by
  refine ⟨_, rfl, ?_⟩
  exact documents_read_back.2.2.2.2.2.2.2.2.2 "results.json" quotedResults {} _ rfl

end Storage

end Rubric
