import Rubric.Document
import Rubric.Vocabulary

namespace Rubric

/-- A total that a test reports without having been told to. -/
structure DerivedTotal where
  identifier : String
  weight : Option String := none
  category : Option String := none
deriving DecidableEq, Repr

namespace DerivedTotal

def score : String := "SCORE"

def weightName : String := "WEIGHT"

def plain : String := "SCORE_TOTAL"

def weighted : String := "SCORE_TOTAL_WEIGHTED"

def overall : List DerivedTotal :=
  [{ identifier := plain }, { identifier := weighted, weight := some weightName }]

def ofCategory (category : String) : List DerivedTotal :=
  [{ identifier := s!"{plain}_{category}", category := some category },
    { identifier := s!"{weighted}_{category}", weight := some weightName,
      category := some category }]

def aggregate (t : DerivedTotal) : Node where
  name := "qti-test-variables"
  attributes := Dictionary.ofList <|
    ("variable-identifier", score) ::
      ((t.weight.map fun w => ("weight-identifier", w)).toList ++
        (t.category.map fun c => ("include-category", c)).toList)

def statement (t : DerivedTotal) : Node where
  name := "qti-set-outcome-value"
  attributes := Dictionary.ofList [("identifier", t.identifier)]
  children := [t.aggregate]

end DerivedTotal

def declareTotal (declarations : List OutcomeDeclaration) (t : DerivedTotal) :
    List OutcomeDeclaration :=
  if declarations.all fun d => d.identifier != t.identifier then
    declarations ++ [.number t.identifier]
  else declarations

namespace Test

/-- The trimmed names of the categories of a test's items, blank ones left out, in ascending
order. -/
def categories (test : Test) : List String :=
  let names := test.itemRefs.flatMap fun ref => ref.categories.elements.map Text.trim
  (TextSet.ofList (names.filter fun c => !c.isEmpty)).elements

/-- Every total that a test should report: the overall ones, then those of each category. -/
def derivedTotals (test : Test) : List DerivedTotal :=
  DerivedTotal.overall ++ test.categories.flatMap DerivedTotal.ofCategory

def authoredTargets (test : Test) : List String :=
  match test.processing with
  | none => []
  | some root =>
    (root.descendants.filter fun node => node.statement? = some .setOutcomeValue).map
      Node.identifier

def missingTotals (test : Test) : List DerivedTotal :=
  test.derivedTotals.filter fun t => !test.authoredTargets.contains t.identifier

def processingRoot (test : Test) : Node :=
  test.processing.getD { name := "qti-outcome-processing" }

/-- The test with statements and declarations for the totals that it does not compute itself. -/
def withDerivedTotals (test : Test) : Test :=
  let root := test.processingRoot
  { test with
    outcomes := test.missingTotals.foldl declareTotal test.outcomes
    processing := some {
      root with children := root.children ++ test.missingTotals.map DerivedTotal.statement } }

end Test

end Rubric
