import Rubric.Decimal.Numeral
import Rubric.Decimal.Shortest

namespace Rubric

/-- A day of the proleptic Gregorian calendar. -/
structure Date where
  year : Int
  month : Nat
  day : Nat
deriving DecidableEq, Repr

namespace Date

def isLeapYear (year : Int) : Bool :=
  year % 4 == 0 && (year % 100 != 0 || year % 400 == 0)

/-- How many days a month has; only the numbers from 1 to 12 are months. -/
def daysIn (year : Int) : Nat → Nat
  | 1 | 3 | 5 | 7 | 8 | 10 | 12 => 31
  | 4 | 6 | 9 | 11 => 30
  | 2 => if isLeapYear year then 29 else 28
  | _ => 0

/-- The first and the last year that dates are known for. -/
def years : Int × Int := (-262143, 262142)

def isValid (d : Date) : Bool :=
  years.1 ≤ d.year && d.year ≤ years.2 && 1 ≤ d.day && d.day ≤ daysIn d.year d.month

/-- How many days lie between the start of 1970 and a date. Years are counted from March, so that
the leap day is their last. -/
def dayNumber (d : Date) : Int :=
  let year := if d.month ≤ 2 then d.year - 1 else d.year
  let month := (d.month + 9) % 12
  365 * year + year / 4 - year / 100 + year / 400 + ((153 * month + 2) / 5 : Nat) + d.day - 719469

/-- The date that many days after the start of 1970. A period of 400 years has 146097 days. -/
def ofDayNumber (n : Int) : Date :=
  let n := n + 719468
  let period := n / 146097
  let dayOfPeriod := (n % 146097).toNat
  let yearOfPeriod :=
    (dayOfPeriod - dayOfPeriod / 1460 + dayOfPeriod / 36524 - dayOfPeriod / 146096) / 365
  let dayOfYear := dayOfPeriod - (365 * yearOfPeriod + yearOfPeriod / 4 - yearOfPeriod / 100)
  let month := (5 * dayOfYear + 2) / 153
  let year := 400 * period + yearOfPeriod
  { year := if month < 10 then year else year + 1
    month := if month < 10 then month + 3 else month - 9
    day := dayOfYear - (153 * month + 2) / 5 + 1 }

end Date

/-- A moment: whole seconds since the start of 1970 and nanoseconds after them. A second's worth of
nanoseconds and more stand for a moment within a leap second. -/
structure Timestamp where
  seconds : Int
  nanos : Nat
deriving DecidableEq, Repr

namespace Timestamp

def dropBlanks (cs : List Char) : List Char :=
  cs.dropWhile Text.isBlank

def takeNumber (width : Nat) (cs : List Char) : Option (Nat × List Char) :=
  let ds := (cs.take width).takeWhile Char.isDigit
  if ds.isEmpty then none else some (Decimal.digitsValue ds, cs.drop ds.length)

/-- Takes a number of at most two digits with blanks before it, if it lies in a range. -/
def takeField (least greatest : Nat) (cs : List Char) : Option (Nat × List Char) := do
  let (n, cs) ← takeNumber 2 (dropBlanks cs)
  if least ≤ n && n ≤ greatest then return (n, cs) else none

def takeMark (mark : Char) (cs : List Char) : Option (List Char) :=
  match dropBlanks cs with
  | c :: cs => if c = mark then some cs else none
  | [] => none

/-- Takes a year: four digits at most, or any number of them after a sign. -/
def takeYear (cs : List Char) : Option (Int × List Char) :=
  match dropBlanks cs with
  | '-' :: cs => (takeNumber cs.length cs).map fun r => (-(r.1 : Int), r.2)
  | '+' :: cs => (takeNumber cs.length cs).map fun r => ((r.1 : Int), r.2)
  | cs => (takeNumber 4 cs).map fun r => ((r.1 : Int), r.2)

def takeDate (cs : List Char) : Option (Date × List Char) := do
  let (year, cs) ← takeYear cs
  let (month, cs) ← takeField 1 12 (← takeMark '-' cs)
  let (day, cs) ← takeField 1 31 (← takeMark '-' cs)
  let date : Date := ⟨year, month, day⟩
  if date.isValid then return (date, cs) else none

/-- Takes the nanoseconds after a point; digits beyond the ninth do not count. -/
def takeNanos : List Char → Option (Nat × List Char)
  | '.' :: cs => do
    let (ds, rest) := Decimal.takeDigits cs
    if ds.isEmpty then none
    else return (Decimal.digitsValue ((ds ++ List.replicate 9 '0').take 9), rest)
  | cs => some (0, cs)

/-- Takes the time of a day, as its seconds and nanoseconds. A sixtieth second is a leap second,
which continues the one before it. -/
def takeTime (cs : List Char) : Option (Nat × Nat × List Char) := do
  let (hour, cs) ← takeField 0 23 cs
  let (minute, cs) ← takeField 0 59 (← takeMark ':' cs)
  let (second, cs) ← takeField 0 60 (← takeMark ':' cs)
  let (nanos, cs) ← takeNanos cs
  let seconds := 3600 * hour + 60 * minute
  if second = 60 then return (seconds + 59, nanos + 1000000000, cs)
  else return (seconds + second, nanos, cs)

def takePair (bound : Nat) : List Char → Option (Nat × List Char)
  | a :: b :: cs => do
    let n := Decimal.digitsValue [a, b]
    if a.isDigit && b.isDigit && n < bound then return (n, cs) else none
  | _ => none

/-- Takes hours and minutes with any colons and blanks between them, as seconds. An offset stays
below a day. -/
def takeDistance (cs : List Char) : Option (Nat × List Char) := do
  let (hours, cs) ← takePair 24 cs
  let (minutes, cs) ← takePair 60 (cs.dropWhile fun c => c == ':' || Text.isBlank c)
  return (3600 * hours + 60 * minutes, cs)

/-- Takes the distance from universal time in seconds: a name for none, or a sign, hours and
minutes. -/
def takeOffset : List Char → Option (Int × List Char)
  | [] => none
  | c :: cs =>
    if c = 'Z' ∨ c = 'z' then some (0, cs)
    else if ((c :: cs).take 3).map Char.toUpper = ['U', 'T', 'C'] then some (0, cs.drop 2)
    else if c = '+' then (takeDistance cs).map fun r => ((r.1 : Int), r.2)
    else if c = '-' ∨ c = '−' then (takeDistance cs).map fun r => (-(r.1 : Int), r.2)
    else none

/-- Reads a moment: date and time with `T` or a space between them, and the offset. Blanks may stand
between the parts. -/
def ofText? (s : String) : Option Timestamp := do
  let (date, cs) ← takeDate s.toList
  match cs with
  | c :: cs =>
    if c = 't' ∨ c = 'T' ∨ c = ' ' then
      let (seconds, nanos, cs) ← takeTime cs
      let (offset, cs) ← takeOffset (dropBlanks cs)
      let seconds := 86400 * date.dayNumber + seconds - offset
      if cs.all Text.isBlank && (Date.ofDayNumber (seconds / 86400)).isValid then
        return { seconds, nanos }
      else none
    else none
  | [] => none

def padded (width n : Nat) : List Char :=
  let ds := Decimal.digitChars n
  List.replicate (width - ds.length) '0' ++ ds

/-- The digits of a year; outside the four-digit years the sign is written. -/
def yearText (year : Int) : List Char :=
  if 0 ≤ year ∧ year ≤ 9999 then padded 4 year.toNat
  else (if year < 0 then '-' else '+') :: padded 4 year.natAbs

/-- The digits of a fraction of a second, in as few groups of three as it needs. -/
def fractionText (nanos : Nat) : List Char :=
  if nanos = 0 then []
  else if nanos % 1000000 = 0 then '.' :: padded 3 (nanos / 1000000)
  else if nanos % 1000 = 0 then '.' :: padded 6 (nanos / 1000)
  else '.' :: padded 9 nanos

def text (t : Timestamp) : String :=
  let date := Date.ofDayNumber (t.seconds / 86400)
  let rest := (t.seconds % 86400).toNat
  let leap := t.nanos / 1000000000
  String.ofList <|
    yearText date.year ++ '-' :: padded 2 date.month ++ '-' :: padded 2 date.day ++ 'T' ::
      padded 2 (rest / 3600) ++ ':' :: padded 2 (rest / 60 % 60) ++ ':' ::
      padded 2 (rest % 60 + leap) ++ fractionText (t.nanos % 1000000000) ++ ['Z']

end Timestamp

end Rubric
