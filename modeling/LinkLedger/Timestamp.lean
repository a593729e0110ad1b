import LinkLedger.Text.Blank
import LinkLedger.Decimal.Shortest

/-!
# Points in time

A point in time is a second of coordinated universal time and a fraction of it; a leap second is
the second before it with a fraction of at least one.  Its text is that of RFC 3339: the reader
also takes an offset from universal time, blanks around the parts, a space or a small letter in
place of `T`, and years of more than four digits behind a sign.
-/

namespace LinkLedger

/-- A point in time: days since 1970-01-01, second of the day, and nanoseconds behind it. -/
structure Timestamp where
  day : Int
  second : Nat
  nano : Nat
  deriving DecidableEq, Repr

namespace Timestamp

open Text

/-! ## The calendar -/

/-- Whether a year has a 29th of February. -/
def isLeapYear (y : Int) : Bool :=
  (y % 4 == 0 && y % 100 != 0) || y % 400 == 0

/-- The number of days of a month. -/
def daysInMonth (y : Int) (m : Nat) : Nat :=
  if m = 2 then (if isLeapYear y then 29 else 28)
  else if m = 4 ∨ m = 6 ∨ m = 9 ∨ m = 11 then 30
  else 31

/-- The day number of a date; years are counted from March on. -/
def dayOfDate (y : Int) (m d : Nat) : Int :=
  let y' := if m ≤ 2 then y - 1 else y
  let era := y' / 400
  let yearOfEra := y' - era * 400
  let month : Int := if m > 2 then m - 3 else m + 9
  let dayOfYear := (153 * month + 2) / 5 + d - 1
  let dayOfEra := yearOfEra * 365 + yearOfEra / 4 - yearOfEra / 100 + dayOfYear
  era * 146097 + dayOfEra - 719468

/-- The date of a day number: year, month, day. -/
def dateOfDay (n : Int) : Int × Nat × Nat :=
  let z := n + 719468
  let era := z / 146097
  let doe := z - era * 146097
  let yoe := (doe - doe / 1460 + doe / 36524 - doe / 146096) / 365
  let doy := doe - (365 * yoe + yoe / 4 - yoe / 100)
  let mp := (5 * doy + 2) / 153
  let d := doy - (153 * mp + 2) / 5 + 1
  let m := if mp < 10 then mp + 3 else mp - 9
  (yoe + era * 400 + (if m ≤ 2 then 1 else 0), m.toNat, d.toNat)

/-! ## Writing -/

/-- A number with at least `width` digits. -/
def padded (width n : Nat) : List Char :=
  let digits := Decimal.digitsOf n
  List.replicate (width - digits.length) '0' ++ digits

/-- The text of a year: four digits, or a sign and at least four digits. -/
def writeYear (y : Int) : List Char :=
  if 0 ≤ y ∧ y ≤ 9999 then padded 4 y.toNat
  else (if y < 0 then '-' else '+') :: padded 4 y.natAbs

/-- The text of a fraction of a second: none, three, six or nine digits. -/
def writeFraction (nano : Nat) : List Char :=
  if nano = 0 then []
  else if nano % 1000000 = 0 then '.' :: padded 3 (nano / 1000000)
  else if nano % 1000 = 0 then '.' :: padded 6 (nano / 1000)
  else '.' :: padded 9 nano

/-- The text of a point in time. -/
def write (t : Timestamp) : List Char :=
  let (y, m, d) := dateOfDay t.day
  let leap := t.nano / 1000000000
  writeYear y ++ '-' :: padded 2 m ++ '-' :: padded 2 d ++ 'T' :: padded 2 (t.second / 3600) ++
    ':' :: padded 2 (t.second / 60 % 60) ++ ':' :: padded 2 (t.second % 60 + leap) ++
    writeFraction (t.nano % 1000000000) ++ ['Z']

/-! ## Reading -/

/-- Why a text is no point in time. -/
inductive Fault where
  | outOfRange
  | impossible
  | invalid
  | tooShort
  | tooLong
  deriving DecidableEq, Repr

/-- The wording of a fault. -/
def Fault.message : Fault → String
  | .outOfRange => "input is out of range"
  | .impossible => "no possible date and time matching input"
  | .invalid => "input contains invalid characters"
  | .tooShort => "premature end of input"
  | .tooLong => "trailing input"

/-- A text behind leading blanks. -/
def skipBlank (cs : List Char) : List Char :=
  cs.dropWhile isBlank

/-- The largest number that is read. -/
def maxNumber : Nat := 0x7FFFFFFFFFFFFFFF

/-- Reads further digits of a number, at most `width`. -/
def readDigits : Nat → Nat → List Char → Except Fault (Nat × List Char)
  | 0, n, cs => .ok (n, cs)
  | _ + 1, n, [] => .ok (n, [])
  | width + 1, n, c :: cs =>
      if c.isDigit then
        let n' := n * 10 + (c.toNat - 48)
        if n' > maxNumber then .error .outOfRange else readDigits width n' cs
      else .ok (n, c :: cs)

/-- Reads a number of at least one digit. -/
def readNumber (width : Nat) (cs : List Char) : Except Fault (Nat × List Char) :=
  match cs with
  | [] => .error .tooShort
  | c :: _ => if c.isDigit then readDigits width 0 cs else .error .invalid

/-- Reads a number within bounds, behind blanks. -/
def readField (low high : Nat) (cs : List Char) : Except Fault (Nat × List Char) := do
  let (n, rest) ← readNumber 2 (skipBlank cs)
  if low ≤ n ∧ n ≤ high then .ok (n, rest) else .error .outOfRange

/-- Reads a mark behind blanks. -/
def readMark (mark : Char) (cs : List Char) : Except Fault (List Char) :=
  match skipBlank cs with
  | [] => .error .tooShort
  | c :: rest => if c = mark then .ok rest else .error .invalid

/-- Reads a year: up to four digits, or any number behind a sign. -/
def readYear (cs : List Char) : Except Fault (Int × List Char) := do
  let (y, rest) ←
    match skipBlank cs with
    | '-' :: r => do
        let (n, rest) ← readNumber r.length r
        .ok (-(n : Int), rest)
    | '+' :: r => do
        let (n, rest) ← readNumber r.length r
        .ok ((n : Int), rest)
    | r => do
        let (n, rest) ← readNumber 4 r
        .ok ((n : Int), rest)
  if -2147483648 ≤ y ∧ y ≤ 2147483647 then .ok (y, rest) else .error .outOfRange

/-- Reads a fraction of a second behind its point; digits beyond the ninth do not count. -/
def readFraction (cs : List Char) : Except Fault (Nat × List Char) := do
  let (n, rest) ← readNumber 9 cs
  let used := cs.length - rest.length
  .ok (n * Nat.pow 10 (9 - used), rest.dropWhile Char.isDigit)

/-- Reads two digits. -/
def readPair (cs : List Char) : Except Fault (Nat × Nat × List Char) :=
  match cs with
  | a :: b :: rest =>
      if a.isDigit ∧ b.isDigit then .ok (a.toNat - 48, b.toNat - 48, rest) else .error .invalid
  | [c] => .error (if c.utf8Size < 2 then .tooShort else .invalid)
  | [] => .error .tooShort

/-- Reads an offset from universal time, in seconds. -/
def readOffset (cs : List Char) : Except Fault (Int × List Char) := do
  match cs with
  | [] => .error .tooShort
  | c :: r =>
      if c = 'Z' ∨ c = 'z' then .ok (0, r)
      else if c = '+' ∨ c = '-' ∨ c = '\u2212' then
        let (a, b, r) ← readPair r
        let (m, n, r) ← readPair (r.dropWhile fun d => d = ':' || isBlank d)
        if m > 5 then .error .outOfRange
        else
          let seconds : Int := (a * 10 + b) * 3600 + (m * 10 + n) * 60
          .ok (if c = '+' then seconds else -seconds, r)
      else .error .invalid

/-- Reads an offset, or the name of universal time. -/
def readZone (cs : List Char) : Except Fault (Int × List Char) :=
  if (cs.take 3).map Char.toUpper = ['U', 'T', 'C'] then .ok (0, cs.drop 3) else readOffset cs

/-- The first and the last year of the calendar. -/
def firstYear : Int := -262143

/-- The last year of the calendar. -/
def lastYear : Int := 262142

/-- The point in time that a text names. -/
def read (cs : List Char) : Except Fault Timestamp := do
  let (y, cs) ← readYear cs
  let cs ← readMark '-' cs
  let (mo, cs) ← readField 1 12 cs
  let cs ← readMark '-' cs
  let (d, cs) ← readField 1 31 cs
  let cs ←
    match cs with
    | [] => .error .tooShort
    | c :: r => if c = 't' ∨ c = 'T' ∨ c = ' ' then .ok r else .error .invalid
  let (h, cs) ← readField 0 23 cs
  let cs ← readMark ':' cs
  let (mi, cs) ← readField 0 59 cs
  let cs ← readMark ':' cs
  let (s, cs) ← readField 0 60 cs
  let (nano, cs) ←
    match cs with
    | '.' :: r => readFraction r
    | _ => .ok (0, cs)
  let (offset, cs) ← readZone (skipBlank cs)
  if !(skipBlank cs).isEmpty then .error .tooLong
  else if d > daysInMonth y mo ∨ y < firstYear ∨ lastYear < y then .error .outOfRange
  else if 86400 ≤ offset.natAbs then .error .outOfRange
  else
    let local_ : Int := dayOfDate y mo d * 86400 + h * 3600 + mi * 60 + (if s = 60 then 59 else s)
    let utc := local_ - offset
    let day := utc / 86400
    let year := (dateOfDay day).1
    if year < firstYear ∨ lastYear < year then .error .impossible
    else .ok ⟨day, (utc % 86400).toNat, nano + (if s = 60 then 1000000000 else 0)⟩

end Timestamp
end LinkLedger
