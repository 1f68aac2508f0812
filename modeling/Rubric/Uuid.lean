import Rubric.Text.Hex

namespace Rubric

structure Uuid where
  bits : BitVec 128
deriving DecidableEq, Repr

namespace Uuid

/-- Characters cut into groups of the given sizes; what is left over makes a last group. -/
def groups : List Nat → List Char → List (List Char)
  | [], cs => [cs]
  | n :: sizes, cs => cs.take n :: groups sizes (cs.drop n)

/-- The written form: groups of 8, 4, 4, 4 and 12 digits in lower case. -/
def text (u : Uuid) : String :=
  String.intercalate "-" ((groups [8, 4, 4, 4] u.bits.toHex.toList).map String.ofList)

/-- The identifier of exactly 32 digits. -/
def ofDigits? (cs : List Char) : Option Uuid :=
  if cs.length = 32 then (Text.hexValue? cs).map fun n => ⟨BitVec.ofNat 128 n⟩ else none

def ofGroups? (cs : List Char) : Option Uuid :=
  match groups [8, 1, 4, 1, 4, 1, 4, 1] cs with
  | [a, ['-'], b, ['-'], c, ['-'], d, ['-'], e] => ofDigits? (a ++ b ++ c ++ d ++ e)
  | _ => none

/-- The characters between a pair of braces or after the mark of a resource name, if there is
one. -/
def unwrap (cs : List Char) : List Char :=
  if "urn:uuid:".toList.isPrefixOf cs then cs.drop 9
  else
    match cs with
    | '\x7b' :: rest => if rest.getLast? = some '\x7d' then rest.dropLast else cs
    | cs => cs

/-- Reads an identifier: 32 digits on their own, or in groups, which may stand in braces or after
`urn:uuid:`. -/
def ofText? (s : String) : Option Uuid :=
  let cs := s.toList
  (ofDigits? cs).or (ofGroups? (unwrap cs))

/-- The identifier made of random bits. Four of them are given up to say so, and two to the layout
that the groups stand for. -/
def ofRandom (bits : BitVec 128) : Uuid where
  bits :=
    (bits &&& ~~~(0xF#128 <<< 76 ||| 0x3#128 <<< 62)) ||| (0x4#128 <<< 76 ||| 0x2#128 <<< 62)

end Uuid

end Rubric
