import Switchboard.Json.Form
import Switchboard.Text.Blank
import Switchboard.Text.Digits

/-!
# Instants

A `Timestamp` is an instant: a day counted from 1970-01-01, a second of that day
in UTC, and nanoseconds.  A leap second is the last second of its minute with a
second or more of nanoseconds.  Instants are ordered by day, second and
nanosecond.

## Text

An instant is written in UTC as `YYYY-MM-DDThh:mm:ss`, a fraction, and `Z`.  The
fraction is absent when it is zero.  Otherwise it has three, six or nine digits,
the least number that is exact.  A year outside 0000 to 9999 has a sign.

Reading is liberal.  Blanks may stand around the numbers, which need not have
all their digits.  A `T` in either case or one blank stands between date and
time.  Digits after the ninth of the fraction are dropped.  The offset from UTC
is `Z` in either case, `UTC`, or a sign, hours and minutes, with any colons and
blanks between the two.

## Calendar

`dayNumber` counts the days up to a date and `dateOf` is the date of a day.
Years start in March there, so that a leap day is the last of its year.  A date
exists if it is the date of its own number (`dayOf?`).
-/

namespace Switchboard

structure Timestamp where
  day : Int
  second : Fin 86400
  /-- The nanoseconds.  A second or more of them is a leap second. -/
  nano : Fin 2000000000
deriving DecidableEq

/-- A date of the calendar. -/
structure Date where
  year : Int
  month : Int
  day : Int
deriving DecidableEq

/-! ## Calendar -/

namespace Date

def epochShift : Int := 719468

/-- The number of a day of the calendar, from 1970-01-01. -/
def dayNumber (c : Date) : Int :=
  let y := if c.month ≤ 2 then c.year - 1 else c.year
  let era := y / 400
  let yoe := y - era * 400
  let doy := (153 * ((c.month + 9) % 12) + 2) / 5 + c.day - 1
  era * 146097 + (yoe * 365 + yoe / 4 - yoe / 100 + doy) - epochShift

/-- The date of a day. -/
def dateOf (n : Int) : Date :=
  let z := n + epochShift
  let era := z / 146097
  let doe := z - era * 146097
  let yoe := (doe - doe / 1460 + doe / 36524 - doe / 146096) / 365
  let doy := doe - (365 * yoe + yoe / 4 - yoe / 100)
  let mp := (5 * doy + 2) / 153
  let month := if mp < 10 then mp + 3 else mp - 9
  let year := yoe + era * 400
  ⟨if month ≤ 2 then year + 1 else year, month, doy - (153 * mp + 2) / 5 + 1⟩

/-- The day of a date, if the calendar has it. -/
def dayOf? (c : Date) : Option Int :=
  if dateOf c.dayNumber = c then some c.dayNumber else none

end Date

namespace Timestamp

open Text (isBlank fixedDigits digitsValue trimStart)

def epoch : Timestamp := ⟨0, 0, 0⟩

instance : Inhabited Timestamp := ⟨epoch⟩

def billion : Nat := 1000000000

/-- Instants are ordered by day, then second, then nanosecond. -/
instance : Ord Timestamp :=
  ⟨fun a b => (compare a.day b.day).then
    ((compare a.second.val b.second.val).then (compare a.nano.val b.nano.val))⟩

/-! ## Printing -/

def yearChars (y : Int) : List Char :=
  if 0 ≤ y ∧ y ≤ 9999 then fixedDigits 4 y.toNat
  else
    let ds := Nat.toDigits 10 y.natAbs
    (if y < 0 then '-' else '+') :: List.replicate (4 - ds.length) '0' ++ ds

/-- The characters of a fraction of a second, with its point. -/
def fractionChars (nano : Nat) : List Char :=
  if nano = 0 then []
  else if nano % 1000000 = 0 then '.' :: fixedDigits 3 (nano / 1000000)
  else if nano % 1000 = 0 then '.' :: fixedDigits 6 (nano / 1000)
  else '.' :: fixedDigits 9 nano

def chars (t : Timestamp) : List Char :=
  let c := Date.dateOf t.day
  let s := t.second.val
  let n := t.nano.val
  let leap := if billion ≤ n then 1 else 0
  yearChars c.year ++ '-' :: fixedDigits 2 c.month.toNat ++ '-' :: fixedDigits 2 c.day.toNat
    ++ 'T' :: fixedDigits 2 (s / 3600) ++ ':' :: fixedDigits 2 (s / 60 % 60)
    ++ ':' :: fixedDigits 2 (s % 60 + leap) ++ fractionChars (n - leap * billion) ++ ['Z']

def text (t : Timestamp) : String := String.ofList t.chars

/-! ## Reading -/

/-- A number of at most so many digits, and what follows it.  Blanks before it
are skipped. -/
def number? (most : Nat) (cs : List Char) : Option (Nat × List Char) :=
  let cs := trimStart cs
  let ds := (cs.take most).takeWhile Char.isDigit
  if ds.isEmpty then none else some (digitsValue ds, cs.drop ds.length)

/-- A year, and what follows it.  A year without a sign has at most four digits. -/
def year? (cs : List Char) : Option (Int × List Char) :=
  match trimStart cs with
  | '-' :: rest => (signed rest).map fun r => (-(r.1 : Int), r.2)
  | '+' :: rest => (signed rest).map fun r => ((r.1 : Int), r.2)
  | cs => (number? 4 cs).map fun r => ((r.1 : Int), r.2)
where
  /-- A number of any length, right after the sign. -/
  signed : List Char → Option (Nat × List Char)
    | c :: rest => if c.isDigit then number? (rest.length + 1) (c :: rest) else none
    | [] => none

/-- What follows a character, after blanks. -/
def mark? (c : Char) (cs : List Char) : Option (List Char) :=
  match trimStart cs with
  | d :: rest => if d = c then some rest else none
  | [] => none

/-- The nanoseconds of a fraction, and what follows it. -/
def fraction? : List Char → Option (Nat × List Char)
  | '.' :: rest =>
      let ds := rest.takeWhile Char.isDigit
      if ds.isEmpty then none
      else
        let kept := ds.take 9
        some (digitsValue kept * Nat.pow 10 (9 - kept.length), rest.drop ds.length)
  | cs => some (0, cs)

/-- Whether a character may stand between the hours and minutes of an offset. -/
def isOffsetMark (c : Char) : Bool := c = ':' || isBlank c

/-- Two digits, and what follows them. -/
def pair? : List Char → Option (Nat × List Char)
  | a :: b :: rest =>
      if a.isDigit && b.isDigit then some (digitsValue [a, b], rest) else none
  | _ => none

/-- An offset written with a sign, in seconds, and what follows it.  Hyphen and
minus sign mean the same. -/
def signedOffset? : List Char → Option (Int × List Char)
  | c :: rest => do
      let negative ←
        if c = '+' then some false else if c = '-' || c = '\u2212' then some true else none
      let (hours, rest) ← pair? rest
      let (minutes, rest) ← pair? (rest.dropWhile isOffsetMark)
      if minutes < 60 then
        let seconds : Int := hours * 3600 + minutes * 60
        some (if negative then -seconds else seconds, rest)
      else none
  | [] => none

/-- An offset from UTC in seconds, and what follows it. -/
def offset? (cs : List Char) : Option (Int × List Char) :=
  if (cs.take 3).map Char.toLower = ['u', 't', 'c'] then some (0, cs.drop 3)
  else match cs with
    | 'Z' :: rest => some (0, rest)
    | 'z' :: rest => some (0, rest)
    | cs => signedOffset? cs

/-- What follows the separator of date and time. -/
def separator? : List Char → Option (List Char)
  | c :: rest => if c = 'T' || c = 't' || c = ' ' then some rest else none
  | [] => none

/-- The greatest year of the calendar, and the least below zero. -/
def lastYear : Int := 262142

/-- The instant of a local second, counted from 1970-01-01T00:00:00Z. -/
def ofSeconds (seconds : Int) (nano : Fin 2000000000) : Timestamp :=
  ⟨seconds / 86400, Fin.ofNat 86400 (seconds % 86400).toNat, nano⟩

def ofChars? (cs : List Char) : Option Timestamp := do
  let (year, cs) ← year? cs
  let cs ← mark? '-' cs
  let (month, cs) ← number? 2 cs
  let cs ← mark? '-' cs
  let (day, cs) ← number? 2 cs
  let cs ← separator? cs
  let (hour, cs) ← number? 2 cs
  let cs ← mark? ':' cs
  let (minute, cs) ← number? 2 cs
  let cs ← mark? ':' cs
  let (second, cs) ← number? 2 cs
  let (nano, cs) ← fraction? cs
  let (offset, cs) ← offset? (trimStart cs)
  let date ← Date.dayOf? ⟨year, month, day⟩
  if (trimStart cs).isEmpty && hour < 24 && minute < 60 && second ≤ 60 && year.natAbs ≤ lastYear
      && offset.natAbs < 86400 then
    let (second, leap) := if second = 60 then (59, billion) else (second, 0)
    let ofDay : Int := hour * 3600 + minute * 60 + second
    some (ofSeconds (date * 86400 + ofDay - offset) (Fin.ofNat 2000000000 (nano + leap)))
  else none

def ofText? (s : String) : Option Timestamp := ofChars? s.toList

instance : Form Timestamp where
  encode t := .text t.text
  decode j := j.text?.bind ofText?

end Timestamp

end Switchboard
