namespace Rubric.Text

def hexDigit? (c : Char) : Option Nat :=
  if '0' ≤ c && c ≤ '9' then some (c.toNat - '0'.toNat)
  else if 'a' ≤ c && c ≤ 'f' then some (c.toNat - 'a'.toNat + 10)
  else if 'A' ≤ c && c ≤ 'F' then some (c.toNat - 'A'.toNat + 10)
  else none

/-- The hexadecimal digit of a number below sixteen, in lower case. -/
def hexChar (n : Nat) : Char :=
  if n < 10 then Char.ofNat ('0'.toNat + n) else Char.ofNat ('a'.toNat + (n - 10))

theorem hexDigit?_hexChar {n : Nat} (h : n < 16) : hexDigit? (hexChar n) = some n := by
  revert n
  decide

/-- The value of a row of hexadecimal digits, if they all are. -/
def hexValue? (cs : List Char) : Option Nat := do
  let ds ← cs.mapM hexDigit?
  return ds.foldl (fun n d => 16 * n + d) 0

/-- The bytes of numbers below sixteen, two to a byte; one left over is dropped. -/
def pairBytes : List Nat → List UInt8
  | high :: low :: rest => UInt8.ofNat (16 * high + low) :: pairBytes rest
  | _ => []

def hexBytes? (s : String) : Option ByteArray := do
  let ds ← s.toList.mapM hexDigit?
  return ⟨(pairBytes ds).toArray⟩

end Rubric.Text
