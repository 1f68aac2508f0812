import Rubric.Host
import Rubric.Text.Search

namespace Rubric

inductive Entry where
  | file (content : ByteArray)
  | directory

/-- A tree of files, as a table from the parts of paths. The root is always there. -/
structure FileTree where
  entries : List (List String × Entry) := []

namespace FileTree

def at? (t : FileTree) (parts : List String) : Option Entry :=
  if parts.isEmpty then some .directory else t.entries.lookup parts

def put (t : FileTree) (parts : List String) (entry : Entry) : FileTree where
  entries := (parts, entry) :: t.entries.filter fun e => e.1 != parts

/-- Where one more part of a path leads from a directory. -/
def next (here : List String) (part : String) : List String :=
  if part = "" ∨ part = "." then here
  else if part = ".." then here.dropLast
  else here ++ [part]

/-- Follows parts from a directory. Only the last part may lead to nothing or to a file. -/
def follow (t : FileTree) (here : List String) : List String → Except FileError (List String)
  | [] => .ok here
  | part :: rest =>
    let there := next here part
    match t.at? there with
    | some .directory => t.follow there rest
    | some (.file _) => if rest.isEmpty then .ok there else .error .notDirectory
    | none => if rest.isEmpty then .ok there else .error .missing

/-- The parts of a path from the root, once it has been followed. -/
def locate (t : FileTree) (path : String) : Except FileError (List String) :=
  if path.isEmpty then .error .missing else t.follow [] (Text.pieces '/' path)

def kind? (t : FileTree) (path : String) : Option EntryKind :=
  match t.locate path with
  | .error _ => none
  | .ok parts =>
    (t.at? parts).map fun
      | .file _ => .file
      | .directory => .directory

def read (t : FileTree) (path : String) : Except FileError ByteArray := do
  match t.at? (← t.locate path) with
  | some (.file content) => return content
  | some .directory => throw .isDirectory
  | none => throw .missing

/-- The name under which a path lies directly in a directory. -/
def nameIn? (directory parts : List String) : Option String :=
  match parts.getLast? with
  | some name => if parts.dropLast = directory then some name else none
  | none => none

def list (t : FileTree) (path : String) : Except FileError (List String) := do
  let parts ← t.locate path
  match t.at? parts with
  | some .directory => return t.entries.filterMap fun e => nameIn? parts e.1
  | some (.file _) => throw .notDirectory
  | none => throw .missing

def makeAlong (t : FileTree) (here : List String) : List String → Except FileError FileTree
  | [] => .ok t
  | part :: rest =>
    let there := next here part
    match t.at? there with
    | some .directory => t.makeAlong there rest
    | some (.file _) => .error (if rest.isEmpty then .occupied else .notDirectory)
    | none => (t.put there .directory).makeAlong there rest

/-- The tree with a directory and those it lies in. -/
def makeDirectories (t : FileTree) (path : String) : Except FileError FileTree :=
  t.makeAlong [] (Text.pieces '/' path)

def write (t : FileTree) (path : String) (content : ByteArray) : Except FileError FileTree := do
  let parts ← t.locate path
  match t.at? parts with
  | some .directory => throw .isDirectory
  | _ => return t.put parts (.file content)

theorem at?_put_self (t : FileTree) {parts : List String} (entry : Entry)
    (h : parts ≠ []) : (t.put parts entry).at? parts = some entry := by
  simp [at?, put, h]

theorem lookup_filter_ne {parts other : List String} (es : List (List String × Entry))
    (h : other ≠ parts) :
    (es.filter fun e => e.1 != parts).lookup other = es.lookup other := by
  induction es with
  | nil => rfl
  | cons e es ih =>
    obtain ⟨key, entry⟩ := e
    by_cases hk : key = parts
    · simp [hk, ih, List.lookup_cons, beq_eq_false_iff_ne.2 h]
    · simp [hk, ih, List.lookup_cons]

theorem at?_put_of_ne (t : FileTree) {parts other : List String} (entry : Entry)
    (h : other ≠ parts) : (t.put parts entry).at? other = t.at? other := by
  simp [at?, put, List.lookup_cons, beq_eq_false_iff_ne.2 h, lookup_filter_ne t.entries h]

theorem follow_put_file (t : FileTree) {here todo parts : List String} (content : ByteArray)
    (hd : ∀ c, t.at? parts = some c → c ≠ .directory)
    (hf : t.follow here todo = .ok parts) (hn : here ≠ parts) :
    (t.put parts (.file content)).follow here todo = .ok parts := by
  induction todo generalizing here with
  | nil => exact absurd (by simpa [follow] using hf) hn
  | cons part rest ih =>
    simp only [follow] at hf ⊢
    by_cases hp : next here part = parts
    · have hne : parts ≠ [] := by
        rintro rfl
        exact hd .directory (by simp [at?]) rfl
      rw [hp] at hf ⊢
      rw [at?_put_self t _ hne]
      cases he : t.at? parts with
      | none => simp_all
      | some entry =>
        cases entry with
        | directory => exact absurd rfl (hd _ he)
        | file _ => simp_all
    · rw [at?_put_of_ne t _ hp]
      cases he : t.at? (next here part) with
      | none => simp_all
      | some entry =>
        cases entry with
        | directory =>
          simp only [he] at hf
          exact ih hf hp
        | file _ => simp_all

theorem read_write {t u : FileTree} {path : String} {content : ByteArray}
    (h : t.write path content = .ok u) : u.read path = .ok content := by
  unfold write at h
  cases hl : t.locate path with
  | error e => simp [hl, bind, Except.bind] at h
  | ok parts =>
    have hd : ∀ c, t.at? parts = some c → c ≠ .directory := by
      rintro c hc rfl
      simp [hl, hc, bind, Except.bind, throw, throwThe, MonadExceptOf.throw] at h
    have hne : parts ≠ [] := by
      rintro rfl
      exact hd .directory (by simp [at?]) rfl
    have hu : u = t.put parts (.file content) := by
      cases he : t.at? parts with
      | none => simp_all [bind, Except.bind, pure, Except.pure]
      | some entry =>
        cases entry with
        | directory => exact absurd rfl (hd _ he)
        | file _ => simp_all [bind, Except.bind, pure, Except.pure]
    have hu' : u.locate path = .ok parts := by
      unfold locate at hl ⊢
      split
      · simp_all
      · rw [if_neg (by assumption)] at hl
        rw [hu]
        exact follow_put_file t content hd hl hne.symm
    have he : u.at? parts = some (.file content) := by
      rw [hu, at?_put_self t _ hne]
    simp [read, hu', he, bind, Except.bind, pure, Except.pure]

end FileTree

end Rubric
