namespace Rubric.Text

def containsChars (pattern : List Char) : List Char → Bool
  | [] => pattern.isEmpty
  | c :: cs => pattern.isPrefixOf (c :: cs) || containsChars pattern cs

def contains (haystack needle : String) : Bool :=
  containsChars needle.toList haystack.toList

theorem containsChars_iff {pattern cs : List Char} :
    containsChars pattern cs = true ↔ ∃ before after, cs = before ++ pattern ++ after := by
  induction cs with
  | nil => simp [containsChars]
  | cons c cs ih =>
    simp only [containsChars, Bool.or_eq_true, List.isPrefixOf_iff_prefix, ih]
    constructor
    · rintro (⟨after, h⟩ | ⟨before, after, rfl⟩)
      · exact ⟨[], after, h.symm⟩
      · exact ⟨c :: before, after, rfl⟩
    · rintro ⟨before, after, h⟩
      cases before with
      | nil => exact .inl ⟨after, h.symm⟩
      | cons b bs =>
        injection h with _ h
        exact .inr ⟨bs, after, h⟩

/-- The characters with every occurrence of `pattern` taken out, from left to right; `skip` counts
the characters of a found occurrence that are still to be passed over. -/
def eraseCharsFrom (pattern : List Char) : Nat → List Char → List Char
  | _, [] => []
  | 0, c :: cs =>
    if pattern.isPrefixOf (c :: cs) then eraseCharsFrom pattern (pattern.length - 1) cs
    else c :: eraseCharsFrom pattern 0 cs
  | skip + 1, _ :: cs => eraseCharsFrom pattern skip cs

def erase (s pattern : String) : String :=
  String.ofList (eraseCharsFrom pattern.toList 0 s.toList)

/-- What follows the last occurrence of a separator, or everything when there is none. -/
def afterLastChars (sep : Char) (cs : List Char) : List Char :=
  (cs.reverse.takeWhile (· != sep)).reverse

def afterLast (sep : Char) (s : String) : String :=
  String.ofList (afterLastChars sep s.toList)

/-- The parts before and after the last occurrence of a separator. -/
def cutLastChars (sep : Char) (cs : List Char) : Option (List Char × List Char) :=
  match cs.reverse.dropWhile (· != sep) with
  | [] => none
  | _ :: before => some (before.reverse, afterLastChars sep cs)

def cutLast (sep : Char) (s : String) : Option (String × String) :=
  (cutLastChars sep s.toList).map fun p => (String.ofList p.1, String.ofList p.2)

/-- The pieces of a list of characters between separators; `piece` is the one being read, last
character first. -/
def piecesFrom (sep : Char) (piece : List Char) : List Char → List (List Char)
  | [] => [piece.reverse]
  | c :: cs =>
    if c == sep then piece.reverse :: piecesFrom sep [] cs else piecesFrom sep (c :: piece) cs

def pieces (sep : Char) (s : String) : List String :=
  (piecesFrom sep [] s.toList).map String.ofList

end Rubric.Text
