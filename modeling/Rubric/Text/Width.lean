import Rubric.Text.CaseTable
import Rubric.Text.WidthTable

namespace Rubric.Text

def zeroWidthJoiner : Nat := 0x200D

/-- Whether a character is one half of a flag. -/
def isIndicator (n : Nat) : Bool :=
  0x1F1E6 ≤ n && n ≤ 0x1F1FF

/-- Whether a character changes the skin tone of the emoji before it. -/
def isModifier (n : Nat) : Bool :=
  0x1F3FB ≤ n && n ≤ 0x1F3FF

/-- Whether a character is a quotation mark that has a wide form. -/
def isQuotation (n : Nat) : Bool :=
  n = 0x2018 || n = 0x2019 || n = 0x201C || n = 0x201D

/-- What a variation selector asks of the character before it. -/
inductive Selector where
  | none
  | text
  | emoji
  | wideQuotation
deriving DecidableEq, Repr

def selector? (n : Nat) : Option Selector :=
  if n = 0xFE0F then some .emoji
  else if n = 0xFE0E then some .text
  else if n = 0xFE01 then some .wideQuotation
  else none

/-- The start of what follows a character, as far as it can be joined with the character. -/
inductive Sequel where
  | other
  | lineFeed
  | modifier
  /-- A half of a flag; `many` when more halves follow it. -/
  | indicator (many : Bool)
  | emoji
  /-- A joiner and an emoji. -/
  | joinedEmoji
  /-- A key cap, a joiner and an emoji. -/
  | joinedKeycap
  /-- Half a flag, a joiner and an emoji. -/
  | joinedIndicator
  /-- Flags, a joiner and an emoji; `extra` when half a flag stands before them. -/
  | joinedFlags (extra : Bool)
  /-- The end of the tags of a flag, a joiner and an emoji: so many letters, or digits before
  letters. -/
  | joinedTags (letters digits : Nat)
  | alef
  /-- The Hebrew letter lamed; `joined` when a joiner stands before it. -/
  | lamed (joined : Bool)
  /-- The Buginese letter ya. -/
  | ya (joined : Bool)
  /-- The Buginese vowel sign i joined to the letter ya. -/
  | vowelYa
  /-- A Tifinagh consonant. -/
  | tifinagh (joined : Bool)
  /-- The Tifinagh joiner of consonants and a consonant. -/
  | tifinaghJoiner
  /-- A Lisu tone letter that joins the one before it. -/
  | tone
  /-- The Old Turkic letter i. -/
  | orkhonI (joined : Bool)
  | coengLetter
  /-- The Kirat Rai vowel sign e. -/
  | vowelE
  /-- The Kirat Rai vowel sign ai. -/
  | vowelAi
deriving DecidableEq, Repr

namespace Sequel

/-- Whether it may end in a joined letter; selectors do not part it from the letter before. -/
def isLetter : Sequel → Bool
  | .alef | .lamed _ | .ya _ | .vowelYa | .tifinagh _ | .tifinaghJoiner | .tone | .orkhonI _
  | .coengLetter => true
  | _ => false

/-- Whether joiners and marks that are not shown are passed over before it. -/
def ignoresMarks (s : Sequel) : Bool :=
  s.isLetter && s != .alef

/-- Whether it waits for an emoji to be joined with. -/
def isJoinedEmoji : Sequel → Bool
  | .joinedEmoji | .joinedKeycap => true
  | _ => false

def join : Sequel → Sequel
  | .lamed _ => .lamed true
  | .ya _ => .ya true
  | .tifinagh _ => .tifinagh true
  | .orkhonI _ => .orkhonI true
  | s => s

/-- What a character is to the one before it. -/
def ofChar (n : Nat) : Sequel :=
  if isIndicator n then .indicator false
  else if isModifier n then .modifier
  else if inRanges emojiRanges n then .emoji
  else if inRanges alefRanges n then .alef
  else if n = 0x5DC then .lamed false
  else if inRanges coengLetterRanges n then .coengLetter
  else if n = 0x1A10 then .ya false
  else if inRanges tifinaghRanges n then .tifinagh false
  else if n = 0xA4FC || n = 0xA4FD then .tone
  else if n = 0x10C03 then .orkhonI false
  else if n = 0x16D67 then .vowelE
  else if n = 0x16D68 then .vowelAi
  else .other

end Sequel

/-- What follows a character: a selector, if one does, and what comes next. -/
structure Following where
  selector : Selector := .none
  sequel : Sequel := .other
deriving DecidableEq, Repr

namespace Following

def rest (f : Following) : Sequel :=
  if f.selector = .none || f.sequel.isLetter then f.sequel else .other

/-- What follows when a selector is put before it. A selector does not part letters, and that of
emoji does not part joined emoji. -/
def select (s : Selector) (f : Following) : Following :=
  if f.rest.isLetter || (s = .emoji && f.rest.isJoinedEmoji) then ⟨s, f.rest⟩ else ⟨s, .other⟩

end Following

/-- The columns of a character that nothing is joined with. -/
def columns (n : Nat) : Nat :=
  if n = 0x17D8 then 3
  else if inRanges emojiRanges n || inRanges wideRanges n then 2
  else if inRanges zeroWidthRanges n then 0
  else 1

/-- The columns that a character adds to letters it is joined with, and what both are to the
character before. -/
def joinLetter? : Sequel → Nat → Option (Int × Sequel)
  | .alef, n =>
    if inRanges lamRanges n then some (0, .other)
    else if inRanges zeroWidthRanges n && !inRanges partingRanges n then some (0, .alef)
    else none
  | .lamed true, n => if n = 0x5D0 then some (0, .other) else none
  | .coengLetter, n => if n = 0x17D2 then some (-1, .other) else none
  | .ya true, n => if n = 0x1A17 then some (0, .vowelYa) else none
  | .vowelYa, n => if n = 0x1A15 then some (0, .other) else none
  | .tifinagh joined, n =>
    if n = 0x2D7F then some (1, .tifinaghJoiner)
    else if joined && inRanges tifinaghRanges n then some (0, .other)
    else none
  | .tifinaghJoiner, n => if inRanges tifinaghRanges n then some (-1, .other) else none
  | .tone, n => if 0xA4F8 ≤ n && n ≤ 0xA4FB then some (0, .other) else none
  | .orkhonI true, n => if n = 0x10C32 then some (0, .other) else none
  | .vowelE, n =>
    if n = 0x16D63 || n = 0x16D69 then some (0, .other)
    else if n = 0x16D67 then some (0, .vowelAi)
    else if n = 0x16D68 then some (1, .vowelE)
    else none
  | .vowelAi, n => if n = 0x16D63 then some (0, .other) else none
  | _, _ => none

/-- The columns that a character adds to tags, and what both are to the character before. A flag
with tags names a region by three digits or letters up to six. -/
def joinTag? (letters digits n : Nat) : Option (Int × Sequel) :=
  if 0xE0061 ≤ n && n ≤ 0xE007A && digits = 0 && letters < 6 then
    some (0, .joinedTags (letters + 1) 0)
  else if 0xE0030 ≤ n && n ≤ 0xE0039 && digits < 3 && letters ≤ 4 then
    some (0, .joinedTags letters (digits + 1))
  else if n = 0x1F3F4 && (digits = 3 || (digits = 0 && 3 ≤ letters)) then some (0, .emoji)
  else none

/-- The columns that a character adds to emoji it is joined with, and what both are to the character
before. -/
def joinEmoji? : Sequel → Nat → Option (Int × Sequel)
  | .modifier, n =>
    if inRanges modifierBaseRanges n then some (0, .emoji)
    else if n = zeroWidthJoiner then some (0, .joinedEmoji)
    else none
  | .indicator many, n =>
    if isIndicator n then some (1, .indicator true)
    else if many && n = zeroWidthJoiner then some (0, .joinedEmoji)
    else none
  | .emoji, n => if n = zeroWidthJoiner then some (0, .joinedEmoji) else none
  | .joinedEmoji, n =>
    if n = 0x20E3 then some (0, .joinedKeycap)
    else if isIndicator n then some (1, .joinedIndicator)
    else if isModifier n then some (0, .modifier)
    else if n = 0xE007F then some (0, .joinedTags 0 0)
    else if inRanges emojiRanges n then some (0, .emoji)
    else none
  | .joinedIndicator, n => if isIndicator n then some (-1, .joinedFlags false) else none
  | .joinedFlags extra, n =>
    if isIndicator n then some (if extra then -1 else 3, .joinedFlags !extra)
    else if n = zeroWidthJoiner then some (0, .joinedEmoji)
    else none
  | .joinedTags letters digits, n => joinTag? letters digits n
  | _, _ => none

/-- The columns that a character adds to what comes next, and what both are to the character
before. -/
def joinColumns (s : Sequel) (n : Nat) : Int × Sequel :=
  if s.ignoresMarks && n = zeroWidthJoiner then (0, s.join)
  else if s.ignoresMarks && inRanges ignoredMarkRanges n then (0, s)
  else ((joinLetter? s n).or (joinEmoji? s n)).getD (columns n, .ofChar n)

/-- The columns that a character adds to what follows it, and what follows the character before. The
control characters and the signs near ASCII are joined with nothing, but the two halves of a line
break count as one. -/
def addColumns (n : Nat) (f : Following) : Int × Following :=
  if f.selector = .emoji && inRanges emojiFormRanges n then
    (if f.sequel.isJoinedEmoji then 0 else 2, ⟨.none, .emoji⟩)
  else if n ≤ 0xA0 then
    if n = 0x0A then (1, ⟨.none, .lineFeed⟩)
    else (if n = 0x0D && f = ⟨.none, .lineFeed⟩ then 0 else 1, {})
  else
    match selector? n with
    | some s => (0, f.select s)
    | none =>
      if f.selector = .text && inRanges textFormRanges n then (1, {})
      else if f.selector = .wideQuotation && isQuotation n then (2, {})
      else
        let (more, sequel) := joinColumns f.rest n
        (more, ⟨.none, sequel⟩)

/-- The columns that a character and the measured text after it take, and what both are to the
character before. -/
def measureCons (c : Char) (m : Int × Following) : Int × Following :=
  let (more, following) := addColumns c.toNat m.2
  (m.1 + more, following)

/-- A text is measured from its end: how many columns a character takes depends on what follows. -/
def measure (cs : List Char) : Int × Following :=
  cs.foldr measureCons (0, {})

def width (s : String) : Nat :=
  (measure s.toList).1.toNat

end Rubric.Text
