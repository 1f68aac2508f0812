import Rubric.Dictionary
import Rubric.Text.Blank
import Rubric.Text.Case
import Rubric.Text.Search

namespace Rubric

/-- One element of a rule tree. -/
structure Node where
  name : String
  attributes : Dictionary String := {}
  children : List Node := []
  text : Option String := none

instance : Inhabited Node := ⟨{ name := "" }⟩

/-- The normal form of a tag: the part after the last colon, in lower case, without one leading
`qti-` and without dashes. -/
def normalTag (tag : String) : String :=
  let lowered := (Text.afterLastChars ':' tag.toList).map Char.toLower
  let bare := if "qti-".toList.isPrefixOf lowered then lowered.drop 4 else lowered
  String.ofList (bare.filter (· != '-'))

/-- The normal form of an attribute name: no dashes, no underscores, lower case. -/
def normalAttribute (name : String) : String :=
  String.ofList ((name.toList.filter fun c => c != '-' && c != '_').map Char.toLower)

namespace Node

def tag (node : Node) : String :=
  normalTag node.name

/-- The attribute of that name in any spelling; of several, the first in the order of names. -/
def attribute? (node : Node) (name : String) : Option String :=
  let wanted := normalAttribute name
  (node.attributes.entries.find? fun e => normalAttribute e.1 == wanted).map Prod.snd

/-- The attribute of that name if it holds more than blanks. -/
def filledAttribute? (node : Node) (name : String) : Option String :=
  (node.attribute? name).filter fun v => !Text.allBlank v

/-- The `identifier` attribute, empty when missing. -/
def identifier (node : Node) : String :=
  (node.attribute? "identifier").getD ""

/-- The text without the marks of character data sections. -/
def textValue (node : Node) : String :=
  let raw := node.text.getD ""
  if Text.contains raw "<![CDATA[" then Text.erase (Text.erase raw "<![CDATA[") "]]>" else raw

mutual

def size : Node → Nat
  | ⟨_, _, children, _⟩ => sizeAll children + 1

def sizeAll : List Node → Nat
  | [] => 0
  | node :: rest => node.size + sizeAll rest

end

mutual

/-- A node followed by the preorder of each of its children. -/
def preorder : Node → List Node
  | node@⟨_, _, children, _⟩ => node :: preorderAll children

def preorderAll : List Node → List Node
  | [] => []
  | node :: rest => node.preorder ++ preorderAll rest

end

theorem size_eq (node : Node) : node.size = sizeAll node.children + 1 := by
  cases node
  simp [size]

theorem sizeAll_append (xs ys : List Node) : sizeAll (xs ++ ys) = sizeAll xs + sizeAll ys := by
  induction xs with
  | nil => simp [sizeAll]
  | cons x xs ih => simp [sizeAll, ih, Nat.add_assoc]

/-- Takes nodes off a stack, top first, and puts the children of each in its place. -/
def drain : List Node → List Node
  | [] => []
  | node :: stack => node :: drain (node.children ++ stack)
termination_by stack => sizeAll stack
decreasing_by
  simp only [sizeAll, sizeAll_append, size_eq]
  omega

/-- The nodes of a tree in document order. -/
def descendants (node : Node) : List Node :=
  drain [node]

theorem preorder_eq (node : Node) : node.preorder = node :: preorderAll node.children := by
  cases node
  simp [preorder]

theorem preorderAll_append (xs ys : List Node) :
    preorderAll (xs ++ ys) = preorderAll xs ++ preorderAll ys := by
  induction xs with
  | nil => simp [preorderAll]
  | cons x xs ih => simp [preorderAll, ih]

theorem drain_eq_preorderAll (stack : List Node) : drain stack = preorderAll stack := by
  fun_induction drain stack with
  | case1 => simp [preorderAll]
  | case2 node stack ih => simp [preorderAll, preorder_eq, ih, preorderAll_append]

end Node

end Rubric
