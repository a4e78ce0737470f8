import Lineage.Time.Instant

/-! Date and time as RFC 3339 writes them. -/

namespace Lineage.Rfc3339

/-- Days from 1970-01-01 to a date of the Gregorian calendar. -/
def daysOfDate (year : Int) (month day : Nat) : Int :=
  let y := if month ≤ 2 then year - 1 else year
  let era := Int.fdiv y 400
  let yearOfEra := y - era * 400
  let shifted : Nat := (month + 9) % 12
  let dayOfYear : Nat := (153 * shifted + 2) / 5 + day - 1
  let dayOfEra := yearOfEra * 365 + Int.fdiv yearOfEra 4 - Int.fdiv yearOfEra 100 + dayOfYear
  era * 146097 + dayOfEra - 719468

/-- The year, month and day of a day counted from 1970-01-01. -/
def dateOfDays (days : Int) : Int × Nat × Nat :=
  let z := days + 719468
  let era := Int.fdiv z 146097
  let dayOfEra := (z - era * 146097).toNat
  let yearOfEra := (dayOfEra - dayOfEra / 1460 + dayOfEra / 36524 - dayOfEra / 146096) / 365
  let dayOfYear := dayOfEra - (365 * yearOfEra + yearOfEra / 4 - yearOfEra / 100)
  let shifted := (5 * dayOfYear + 2) / 153
  let day := dayOfYear - (153 * shifted + 2) / 5 + 1
  let month := if shifted < 10 then shifted + 3 else shifted - 9
  let year := (yearOfEra : Int) + era * 400
  (if month ≤ 2 then year + 1 else year, month, day)

def isLeapYear (year : Nat) : Bool :=
  year % 4 == 0 && (year % 100 != 0 || year % 400 == 0)

def daysInMonth (year month : Nat) : Nat :=
  if month == 2 then (if isLeapYear year then 29 else 28)
  else if month == 4 || month == 6 || month == 9 || month == 11 then 30
  else 31

def digit? (c : Char) : Option Nat :=
  if c.isDigit then some (c.toNat - '0'.toNat) else none

/-- Exactly `count` digits. -/
def takeNumber? (count : Nat) (cs : List Char) : Option (Nat × List Char) :=
  go count 0 cs
where
  go : Nat → Nat → List Char → Option (Nat × List Char)
    | 0, n, cs => some (n, cs)
    | _ + 1, _, [] => none
    | k + 1, n, c :: cs => (digit? c).bind fun d => go k (n * 10 + d) cs

def expect? (p : Char → Bool) : List Char → Option (List Char)
  | c :: cs => if p c then some cs else none
  | [] => none

/-- A decimal fraction of a second, in nanoseconds. Digits after the ninth are dropped. -/
def takeFraction? (cs : List Char) : Option (Nat × List Char) :=
  match cs with
  | '.' :: cs =>
    let digits := cs.takeWhile Char.isDigit
    if digits.isEmpty then none
    else
      let nine := (digits.take 9).foldl (fun n c => n * 10 + (c.toNat - '0'.toNat)) 0
      some (nine * Nat.pow 10 (9 - digits.length), cs.dropWhile Char.isDigit)
  | cs => some (0, cs)

/-- Minutes east of UTC. The sign may also be U+2212. -/
def takeOffset? (cs : List Char) : Option (Int × List Char) :=
  match cs with
  | [] => none
  | c :: cs =>
    if c == 'Z' || c == 'z' then some (0, cs)
    else if c == '+' || c == '-' || c == '\u2212' then do
      let (hours, cs) ← takeNumber? 2 cs
      let cs ← expect? (· == ':') cs
      let (minutes, cs) ← takeNumber? 2 cs
      if 23 < hours || 59 < minutes then none
      else
        let east : Int := hours * 60 + minutes
        some (if c == '+' then east else -east, cs)
    else none

/-- A four-digit year, and a second up to 60. Date and time are parted by a `T` of either case or by
one space. -/
def parse? (text : String) : Option Instant := do
  let cs := text.toList
  let (year, cs) ← takeNumber? 4 cs
  let cs ← expect? (· == '-') cs
  let (month, cs) ← takeNumber? 2 cs
  let cs ← expect? (· == '-') cs
  let (day, cs) ← takeNumber? 2 cs
  let cs ← expect? (fun c => c == 'T' || c == 't' || c == ' ') cs
  let (hour, cs) ← takeNumber? 2 cs
  let cs ← expect? (· == ':') cs
  let (minute, cs) ← takeNumber? 2 cs
  let cs ← expect? (· == ':') cs
  let (second, cs) ← takeNumber? 2 cs
  let (nanos, cs) ← takeFraction? cs
  let (offset, cs) ← takeOffset? cs
  if !cs.isEmpty || month < 1 || 12 < month || day < 1 || daysInMonth year month < day
      || 23 < hour || 59 < minute || 60 < second then none
  else
    let wholeSecond := if second == 60 then 59 else second
    let leap := if second == 60 then Instant.nanosPerSecond else 0
    let wall : Int := daysOfDate year month day * Instant.secondsPerDay
      + ((hour * 60 + minute) * 60 + wholeSecond : Nat)
    some (Instant.ofUnix (wall - offset * 60) (nanos + leap))

/-- At least `width` digits, with zeros in front. -/
def padded (width n : Nat) : String :=
  let digits := toString n
  String.ofList (List.replicate (width - digits.length) '0') ++ digits

/-- A year outside 0 to 9999 has a sign. -/
def yearText (year : Int) : String :=
  if year < 0 then "-" ++ padded 4 year.natAbs
  else if 9999 < year then "+" ++ padded 4 year.natAbs
  else padded 4 year.natAbs

/-- Absent, or in whole milliseconds, microseconds or nanoseconds, whichever is exact first. -/
def fractionText (nanos : Nat) : String :=
  if nanos == 0 then ""
  else if nanos % 1000000 == 0 then "." ++ padded 3 (nanos / 1000000)
  else if nanos % 1000 == 0 then "." ++ padded 6 (nanos / 1000)
  else "." ++ padded 9 nanos

def render (t : Instant) : String :=
  let (year, month, day) := dateOfDays t.day
  let leap := Instant.nanosPerSecond ≤ t.nanosecond
  let second := t.second % 60 + (if leap then 1 else 0)
  let nanos := if leap then t.nanosecond - Instant.nanosPerSecond else t.nanosecond
  yearText year ++ "-" ++ padded 2 month ++ "-" ++ padded 2 day ++ "T"
    ++ padded 2 (t.second / 3600) ++ ":" ++ padded 2 (t.second / 60 % 60) ++ ":"
    ++ padded 2 second ++ fractionText nanos ++ "+00:00"

end Lineage.Rfc3339
