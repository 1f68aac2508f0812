import Rubric.Config
import Rubric.Document
import Rubric.Json.Decode
import Rubric.Json.Reader
import Rubric.Json.Writer
import Rubric.Log
import Rubric.Package

namespace Rubric

/-- A text that may be missing, as null. -/
def Json.ofText : Option String → Json
  | some s => .string s
  | none => .null

def Json.ofTexts (xs : List String) : Json :=
  .array (xs.map .string)

/-- A member that is left out when there is nothing to write. -/
def Json.member? (key : String) (j : Option Json) : List (String × Json) :=
  (j.map fun j => (key, j)).toList

def Json.texts? (j : Json) : Option (List String) :=
  j.list? text?

namespace BaseType

def toJson (b : BaseType) : Json :=
  .string b.name

def ofJson? : Json → Option BaseType :=
  Json.choice? ofName?

end BaseType

namespace Cardinality

def toJson (c : Cardinality) : Json :=
  .string c.name

def ofJson? : Json → Option Cardinality :=
  Json.choice? ofName?

end Cardinality

namespace Value

/-- A value; scalar, members and identifier are left out when missing. -/
def toJson (v : Value) : Json :=
  .object <|
    [("base_type", v.baseType.toJson), ("cardinality", v.cardinality.toJson)] ++
      Json.member? "value" (v.scalar.map .string) ++
      Json.member? "values" (v.members.map Json.ofTexts) ++
      Json.member? "identifier" (v.identifier.map .string)

def ofJson? (j : Json) : Option Value := do
  let field ← j.record? ["base_type", "cardinality", "value", "values", "identifier"]
  return {
    baseType := ← Json.required BaseType.ofJson? (field "base_type")
    cardinality := ← Json.optional .single Cardinality.ofJson? (field "cardinality")
    scalar := ← Json.optional none (Json.nullable? Json.text?) (field "value")
    members := ← Json.optional none (Json.nullable? Json.texts?) (field "values")
    identifier := ← Json.optional none (Json.nullable? Json.text?) (field "identifier") }

end Value

namespace Variable

/-- A variable; the members are left out when there are none. -/
def toJson (v : Variable) : Json :=
  .object <|
    [("identifier", .string v.identifier), ("base_type", v.baseType.toJson),
      ("cardinality", v.cardinality.toJson), ("value", Json.ofText v.scalar)] ++
      Json.member? "values" (if v.members.isEmpty then none else some (Json.ofTexts v.members))

def ofJson? (j : Json) : Option Variable := do
  let field ← j.record? ["identifier", "base_type", "cardinality", "value", "values"]
  return {
    identifier := ← Json.required Json.text? (field "identifier")
    baseType := ← Json.optional .string BaseType.ofJson? (field "base_type")
    cardinality := ← Json.optional .single Cardinality.ofJson? (field "cardinality")
    scalar := ← Json.optional none (Json.nullable? Json.text?) (field "value")
    members := ← Json.optional [] Json.texts? (field "values") }

end Variable

namespace OutcomeDeclaration

def toJson (d : OutcomeDeclaration) : Json :=
  .object [("identifier", .string d.identifier), ("base_type", d.baseType.toJson),
    ("cardinality", d.cardinality.toJson), ("default_value", Json.ofText d.default)]

def ofJson? (j : Json) : Option OutcomeDeclaration := do
  let field ← j.record? ["identifier", "base_type", "cardinality", "default_value"]
  return {
    identifier := ← Json.required Json.text? (field "identifier")
    baseType := ← Json.optional .string BaseType.ofJson? (field "base_type")
    cardinality := ← Json.optional .single Cardinality.ofJson? (field "cardinality")
    default := ← Json.optional none (Json.nullable? Json.text?) (field "default_value") }

end OutcomeDeclaration

namespace ResponseDeclaration

def toJson (d : ResponseDeclaration) : Json :=
  .object [("identifier", .string d.identifier), ("base_type", d.baseType.toJson),
    ("cardinality", d.cardinality.toJson), ("correct_response", Json.ofText d.correct),
    ("correct_responses", Json.ofTexts d.correctMembers)]

def ofJson? (j : Json) : Option ResponseDeclaration := do
  let field ← j.record?
    ["identifier", "base_type", "cardinality", "correct_response", "correct_responses"]
  return {
    identifier := ← Json.required Json.text? (field "identifier")
    baseType := ← Json.optional .string BaseType.ofJson? (field "base_type")
    cardinality := ← Json.optional .single Cardinality.ofJson? (field "cardinality")
    correct := ← Json.optional none (Json.nullable? Json.text?) (field "correct_response")
    correctMembers := ← Json.optional [] Json.texts? (field "correct_responses") }

end ResponseDeclaration

namespace Node

mutual

/-- A rule tree; attributes, children and text are left out when there are none. -/
def toJson : Node → Json
  | ⟨name, attributes, children, text⟩ =>
    .object <|
      ("name", .string name) ::
        (Json.member? "attributes"
            (if attributes.isEmpty then none
            else some (.object (attributes.entries.map fun e => (e.1, .string e.2)))) ++
          Json.member? "children"
            (if children.isEmpty then none else some (.array (toJsonAll children))) ++
          Json.member? "text" (text.map .string))

def toJsonAll : List Node → List Json
  | [] => []
  | node :: rest => node.toJson :: toJsonAll rest

end

/-- Reads a rule tree of at most so many levels. -/
def ofJsonWithin? : Nat → Json → Option Node
  | 0, _ => none
  | levels + 1, j => do
    let field ← j.record? ["name", "attributes", "children", "text"]
    return {
      name := ← Json.required Json.text? (field "name")
      attributes := ← Json.optional {} (Json.dictionary? Json.text?) (field "attributes")
      children := ← Json.optional [] (Json.list? (ofJsonWithin? levels)) (field "children")
      text := ← Json.optional none (Json.nullable? Json.text?) (field "text") }

def ofJson? (j : Json) : Option Node :=
  ofJsonWithin? (j.depth + 1) j

end Node

namespace Item

def toJson (item : Item) : Json :=
  .object [("identifier", .string item.identifier),
    ("outcome_declarations", .array (item.outcomes.map OutcomeDeclaration.toJson)),
    ("response_declarations", .array (item.responses.map ResponseDeclaration.toJson)),
    ("response_processing", (item.processing.map Node.toJson).getD .null)]

def ofJson? (j : Json) : Option Item := do
  let field ← j.record?
    ["identifier", "outcome_declarations", "response_declarations", "response_processing"]
  return {
    identifier := ← Json.required Json.text? (field "identifier")
    outcomes :=
      ← Json.optional [] (Json.list? OutcomeDeclaration.ofJson?) (field "outcome_declarations")
    responses :=
      ← Json.optional [] (Json.list? ResponseDeclaration.ofJson?) (field "response_declarations")
    processing :=
      ← Json.optional none (Json.nullable? Node.ofJson?) (field "response_processing") }

end Item

namespace ItemRef

def toJson (ref : ItemRef) : Json :=
  .object [("identifier", .string ref.identifier),
    ("categories", Json.ofTexts ref.categories.elements),
    ("weights", .object (ref.weights.entries.map fun e => (e.1, .number (.double e.2))))]

def ofJson? (j : Json) : Option ItemRef := do
  let field ← j.record? ["identifier", "categories", "weights"]
  return {
    identifier := ← Json.required Json.text? (field "identifier")
    categories := TextSet.ofList (← Json.optional [] Json.texts? (field "categories"))
    weights := ← Json.optional {} (Json.dictionary? Json.double?) (field "weights") }

end ItemRef

namespace Test

def toJson (test : Test) : Json :=
  .object [("identifier", .string test.identifier),
    ("item_refs", .array (test.itemRefs.map ItemRef.toJson)),
    ("outcome_declarations", .array (test.outcomes.map OutcomeDeclaration.toJson)),
    ("outcome_processing", (test.processing.map Node.toJson).getD .null)]

def ofJson? (j : Json) : Option Test := do
  let field ← j.record?
    ["identifier", "item_refs", "outcome_declarations", "outcome_processing"]
  return {
    identifier := ← Json.required Json.text? (field "identifier")
    itemRefs := ← Json.optional [] (Json.list? ItemRef.ofJson?) (field "item_refs")
    outcomes :=
      ← Json.optional [] (Json.list? OutcomeDeclaration.ofJson?) (field "outcome_declarations")
    processing :=
      ← Json.optional none (Json.nullable? Node.ofJson?) (field "outcome_processing") }

end Test

namespace Package

def toJson (package : Package) : Json :=
  .object [("test", (package.test.map Test.toJson).getD .null),
    ("items", .array (package.items.map Item.toJson))]

def ofJson? (j : Json) : Option Package := do
  let field ← j.record? ["test", "items"]
  return {
    test := ← Json.optional none (Json.nullable? Test.ofJson?) (field "test")
    items := ← Json.optional [] (Json.list? Item.ofJson?) (field "items") }

end Package

namespace ItemResult

def toJson (r : ItemResult) : Json :=
  .object [("identifier", .string r.identifier),
    ("response_variables", .array (r.responses.map Variable.toJson)),
    ("outcome_variables", .array (r.outcomes.map Variable.toJson))]

def ofJson? (j : Json) : Option ItemResult := do
  let field ← j.record? ["identifier", "response_variables", "outcome_variables"]
  return {
    identifier := ← Json.required Json.text? (field "identifier")
    responses := ← Json.optional [] (Json.list? Variable.ofJson?) (field "response_variables")
    outcomes := ← Json.optional [] (Json.list? Variable.ofJson?) (field "outcome_variables") }

end ItemResult

namespace TestResult

def toJson (r : TestResult) : Json :=
  .object [("identifier", .string r.identifier),
    ("outcome_variables", .array (r.outcomes.map Variable.toJson))]

def ofJson? (j : Json) : Option TestResult := do
  let field ← j.record? ["identifier", "outcome_variables"]
  return {
    identifier := ← Json.required Json.text? (field "identifier")
    outcomes := ← Json.optional [] (Json.list? Variable.ofJson?) (field "outcome_variables") }

end TestResult

namespace AssessmentResult

def toJson (r : AssessmentResult) : Json :=
  .object [("identifier", .string r.identifier),
    ("item_results", .array (r.itemResults.map ItemResult.toJson)),
    ("test_results", .array (r.testResults.map TestResult.toJson))]

def ofJson? (j : Json) : Option AssessmentResult := do
  let field ← j.record? ["identifier", "item_results", "test_results"]
  return {
    identifier := ← Json.required Json.text? (field "identifier")
    itemResults := ← Json.optional [] (Json.list? ItemResult.ofJson?) (field "item_results")
    testResults := ← Json.optional [] (Json.list? TestResult.ofJson?) (field "test_results") }

end AssessmentResult

namespace ResponseOptions

def toJson (o : ResponseOptions) : Json :=
  .object [("string_match_case_sensitive", .boolean o.stringMatchCaseSensitive),
    ("substring_case_sensitive", .boolean o.substringCaseSensitive)]

def ofJson? (j : Json) : Option ResponseOptions := do
  let field ← j.record? ["string_match_case_sensitive", "substring_case_sensitive"]
  return {
    stringMatchCaseSensitive :=
      ← Json.optional true Json.boolean? (field "string_match_case_sensitive")
    substringCaseSensitive :=
      ← Json.optional true Json.boolean? (field "substring_case_sensitive") }

end ResponseOptions

namespace Config

def toJson (c : Config) : Json :=
  .object [("process_parallel", .boolean c.processParallel),
    ("parallelism", .number (.natural c.parallelism)),
    ("max_branch_children", .number (.natural c.maxBranchChildren)),
    ("derive_totals", .boolean c.deriveTotals), ("response", c.response.toJson)]

def ofJson? (j : Json) : Option Config := do
  let field ← j.record?
    ["process_parallel", "parallelism", "max_branch_children", "derive_totals", "response"]
  return {
    processParallel := ← Json.optional false Json.boolean? (field "process_parallel")
    parallelism := ← Json.optional 4 Json.natural? (field "parallelism")
    maxBranchChildren := ← Json.optional 100 Json.natural? (field "max_branch_children")
    deriveTotals := ← Json.optional true Json.boolean? (field "derive_totals")
    response := ← Json.optional {} ResponseOptions.ofJson? (field "response") }

end Config

namespace Diagnostic

def toJson (d : Diagnostic) : Json :=
  .object [("severity", .string d.severity.name), ("message", .string d.message)]

def ofJson? (j : Json) : Option Diagnostic := do
  let field ← j.record? ["severity", "message"]
  return {
    severity := ← Json.required (Json.choice? Severity.ofName?) (field "severity")
    message := ← Json.required Json.text? (field "message") }

end Diagnostic

end Rubric
