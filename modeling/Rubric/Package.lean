import Rubric.Operand

namespace Rubric

structure Package where
  test : Option Test := none
  items : List Item := []
deriving Inhabited

inductive Flaw where
  | duplicateItem (identifier : String)
  | noProcessing
  | itemRefUnmatched (item : String)
  | oddRoot (tag : String)
  | tagUnsupported (tag : String)
  | operatorUnregistered (name : String)
  | targetUndeclared (identifier : String)
deriving DecidableEq, Repr

def Flaw.message : Flaw → String
  | duplicateItem identifier => s!"duplicate item identifier: {identifier}"
  | noProcessing => "item has no response processing"
  | itemRefUnmatched item => s!"item ref {item} has no matching item"
  | oddRoot tag => s!"outcome processing root is {tag}"
  | tagUnsupported tag => s!"unsupported tag: {tag}"
  | operatorUnregistered name => s!"custom operator is not registered: {name}"
  | targetUndeclared identifier => s!"setOutcomeValue target has no declaration: {identifier}"

/-- A flaw and the item or test in which it was found. -/
structure Finding where
  scope : String
  flaw : Flaw
deriving DecidableEq, Repr

namespace Package

/-- The flaw of a single node, if it has one. -/
def nodeFlaw? (registry : Registry) (declarations : List OutcomeDeclaration) (node : Node) :
    Option Flaw :=
  match node.role with
  | .unknown tag => some (.tagUnsupported tag)
  | .expression .customOperator =>
    let name := Scope.operatorName node
    if (registry.find? name).isNone then some (.operatorUnregistered name) else none
  | .statement .setOutcomeValue =>
    let target := node.identifier
    if declarations.any fun d => d.identifier == target then none
    else some (.targetUndeclared target)
  | _ => none

def treeFlaws (registry : Registry) (declarations : List OutcomeDeclaration) (root : Node) :
    List Flaw :=
  (root.children.flatMap Node.descendants).filterMap (nodeFlaw? registry declarations)

/-- The items whose identifier an earlier item has; `seen` holds the identifiers so far. -/
def repeatedItems (seen : List String) : List Item → List Item
  | [] => []
  | item :: rest =>
    if seen.contains item.identifier then item :: repeatedItems seen rest
    else repeatedItems (item.identifier :: seen) rest

def itemFlaws (registry : Registry) (item : Item) : List Flaw :=
  match item.processing with
  | some root => treeFlaws registry item.outcomes root
  | none => [.noProcessing]

/-- The flaws of a test, beside items of the given identifiers. -/
def testFlaws (registry : Registry) (items : List String) (test : Test) : List Flaw :=
  let unmatched := test.itemRefs.filter fun ref => !items.contains ref.identifier
  unmatched.map (fun ref => .itemRefUnmatched ref.identifier) ++
    match test.processing with
    | none => []
    | some root =>
      (if isOutcomeRoot root.name then [] else [.oddRoot root.name]) ++
        treeFlaws registry test.outcomes root

/-- The flaws of a package: repeated items, then the items one by one, then the test. -/
def validate (registry : Registry) (package : Package) : List Finding :=
  (repeatedItems [] package.items).map
      (fun item => ⟨item.identifier, .duplicateItem item.identifier⟩) ++
    package.items.flatMap
      (fun item => (itemFlaws registry item).map fun flaw => ⟨item.identifier, flaw⟩) ++
    package.test.toList.flatMap fun test =>
      (testFlaws registry (package.items.map Item.identifier) test).map
        fun flaw => ⟨test.identifier, flaw⟩

end Package

end Rubric
