import Rubric.Value

namespace Rubric

/-- A variable bound to what a candidate answered or a rule computed. -/
structure Variable where
  identifier : String
  baseType : BaseType := .string
  cardinality : Cardinality := .single
  scalar : Option String := none
  members : List String := []
deriving DecidableEq, Repr

structure OutcomeDeclaration where
  identifier : String
  baseType : BaseType := .string
  cardinality : Cardinality := .single
  default : Option String := none
deriving DecidableEq, Repr

/-- The declaration of a response variable. A single correct response stands in `correct`, the
correct responses of a container in `correctMembers`. -/
structure ResponseDeclaration where
  identifier : String
  baseType : BaseType := .string
  cardinality : Cardinality := .single
  correct : Option String := none
  correctMembers : List String := []
deriving DecidableEq, Repr

namespace OutcomeDeclaration

/-- A single number that starts at zero, the shape of every derived total. -/
def number (identifier : String) : OutcomeDeclaration :=
  { identifier, baseType := .float, default := some "0" }

def toVariable (d : OutcomeDeclaration) : Variable where
  identifier := d.identifier
  baseType := d.baseType
  cardinality := d.cardinality
  scalar := d.default

def find? (ds : List OutcomeDeclaration) (identifier : String) : Option OutcomeDeclaration :=
  ds.find? fun d => d.identifier == identifier

end OutcomeDeclaration

namespace ResponseDeclaration

/-- A variable of the declared shape that holds nothing. -/
def toVariable (d : ResponseDeclaration) : Variable where
  identifier := d.identifier
  baseType := d.baseType
  cardinality := d.cardinality

/-- The declared correct response as a value, if there is one. A container without members falls
back to the single correct response, and a single one to the first member. -/
def correctValue? (d : ResponseDeclaration) : Option Value :=
  match d.cardinality with
  | .single => (d.correct.or d.correctMembers.head?).map (Value.single d.baseType)
  | cardinality =>
    some (.container d.baseType cardinality
      (if d.correctMembers.isEmpty then d.correct.toList else d.correctMembers))

end ResponseDeclaration

namespace Variable

def single (identifier : String) (baseType : BaseType) (text : String) : Variable :=
  { identifier, baseType, scalar := some text }

def container (identifier : String) (baseType : BaseType) (cardinality : Cardinality)
    (members : List String) : Variable :=
  { identifier, baseType, cardinality, members }

/-- The value that a variable holds: the scalar of a single one, the members of a container. -/
def value (v : Variable) : Value :=
  match v.cardinality with
  | .single => (Value.single v.baseType (v.scalar.getD "")).named v.identifier
  | cardinality => (Value.container v.baseType cardinality v.members).named v.identifier

/-- The scalar that a single variable takes from a value: its scalar, else its first member, else
the empty text. -/
def scalarOf (v : Value) : String :=
  (v.scalar.or (v.members.bind List.head?)).getD ""

/-- The members that a container takes from a value: its members, else the scalar unless that is
empty. -/
def membersOf (v : Value) : List String :=
  match v.members with
  | some members => members
  | none => v.scalar.toList.filter fun text => !text.isEmpty

/-- The variable holding the content of a value in its own shape. -/
def assign (v : Variable) (value : Value) : Variable :=
  match v.cardinality with
  | .single => { v with scalar := some (scalarOf value), members := [] }
  | _ => { v with scalar := none, members := membersOf value }

def shapedBy (v : Variable) (d : ResponseDeclaration) : Variable :=
  let typed := { v with baseType := d.baseType }
  if typed.cardinality = d.cardinality then typed
  else { typed with cardinality := d.cardinality }.assign typed.value

def find? (vs : List Variable) (identifier : String) : Option Variable :=
  vs.find? fun v => v.identifier == identifier

@[simp]
theorem identifier_assign (v : Variable) (value : Value) :
    (v.assign value).identifier = v.identifier := by
  unfold assign
  split <;> rfl

@[simp]
theorem baseType_assign (v : Variable) (value : Value) :
    (v.assign value).baseType = v.baseType := by
  unfold assign
  split <;> rfl

@[simp]
theorem cardinality_assign (v : Variable) (value : Value) :
    (v.assign value).cardinality = v.cardinality := by
  unfold assign
  split <;> rfl

end Variable

/-- The outcome variables of one result, in the order of their creation. It may come from a document
with repeated identifiers, of which the first one counts. -/
abbrev Store := List Variable

namespace Store

/-- Applies `f` to the variable of a declaration, which is created from the declared default when
missing. -/
def update (declaration : OutcomeDeclaration) (f : Variable → Variable) : Store → Store
  | [] => [f declaration.toVariable]
  | v :: rest =>
    if v.identifier = declaration.identifier then f v :: rest
    else v :: update declaration f rest

def ensure (store : Store) (declaration : OutcomeDeclaration) : Store :=
  store.update declaration id

def ensureAll (store : Store) (declarations : List OutcomeDeclaration) : Store :=
  declarations.foldl ensure store

/-- The store after a value has been written to the variable of a declaration. -/
def write (store : Store) (declaration : OutcomeDeclaration) (value : Value) : Store :=
  store.update declaration fun v => v.assign value

def variableOf (store : Store) (declaration : OutcomeDeclaration) : Variable :=
  (Variable.find? store declaration.identifier).getD declaration.toVariable

end Store

end Rubric
