import FilterSql.Calendar
import FilterSql.IntegerText
import FilterSql.WhiteSpace

/-!
# Dates and times in text

Dates are written `YYYY-MM-DD`, times `HH:MM:SS`, and both together with a space
between them.  Reading allows white space before each number, numbers without
leading zeros, and signed years of any length.  The range of each number is
checked as it is read, and whether the day exists is checked last.
-/

namespace FilterSql

inductive CalendarError where
  | invalidCharacters
  | prematureEnd
  | trailingInput
  | outOfRange
  deriving DecidableEq, Repr

namespace CalendarError

def message : CalendarError → String
  | invalidCharacters => "input contains invalid characters"
  | prematureEnd => "premature end of input"
  | trailingInput => "trailing input"
  | outOfRange => "input is out of range"

end CalendarError

namespace CalendarText

/-- A reading step: from a text it gives what it read and the text that
follows, or the reason why it cannot be read. -/
abbrev Scanner :=
  StateT (List Char) (Except CalendarError)

/-- A number of one to `most` digits. -/
def scanNumber (most : Nat) : Scanner Nat := fun text =>
  if text.isEmpty then .error .prematureEnd
  else
    match DecimalText.takeDigits most text with
    | ([], _) => .error .invalidCharacters
    | (digits, rest) => .ok (DecimalText.valueOf digits, rest)

/-- A number of one or more digits. -/
def scanLongNumber : Scanner Nat := fun text =>
  scanNumber text.length text

def scanMark (mark : Char) : Scanner Unit
  | [] => .error .prematureEnd
  | first :: rest =>
      if first = mark then .ok ((), rest) else .error .invalidCharacters

/-- White space, which may be missing. -/
def scanBlank : Scanner Unit := fun text =>
  .ok ((), WhiteSpace.skip text)

/-- A number, when it satisfies a condition on its range. -/
def within {α : Type} (value : α) (holds : Bool) : Scanner α :=
  if holds then pure value else throw .outOfRange

/-- White space and a number of one or two digits within a range. -/
def scanField (least most : Nat) : Scanner Nat := do
  scanBlank
  let number ← scanNumber 2
  within number (least ≤ number && number ≤ most)

/-- A number under a sign that has been taken. -/
def scanMagnitude (negative : Bool) (scan : Scanner Nat) : Scanner Int := do
  let magnitude ← scan
  return IntegerText.signed negative magnitude

/-- A year without its white space: one to four digits, or a sign and any number
of digits. -/
def scanSignedYear : Scanner Int
  | '-' :: rest => scanMagnitude true scanLongNumber rest
  | '+' :: rest => scanMagnitude false scanLongNumber rest
  | text => scanMagnitude false (scanNumber 4) text

/-- White space and a year that fits 32 bits. -/
def scanYear : Scanner Int := do
  scanBlank
  let year ← scanSignedYear
  within year
    (Int32.minValue.toInt ≤ year && year ≤ Int32.maxValue.toInt)

/-- The parts of a date, of which only the ranges are checked. -/
def scanDate : Scanner (Int × Nat × Nat) := do
  let year ← scanYear
  scanMark '-'
  let month ← scanField 1 12
  scanMark '-'
  let day ← scanField 1 31
  return (year, month, day)

def scanTime : Scanner (Nat × Nat × Nat) := do
  let hour ← scanField 0 23
  scanMark ':'
  let minute ← scanField 0 59
  scanMark ':'
  let second ← scanField 0 60
  return (hour, minute, second)

def scanEnd : Scanner Unit
  | [] => .ok ((), [])
  | _ :: _ => .error .trailingInput

/-- What exists, or else an error for the range. -/
def existing {α : Type} : Option α → Scanner α
  | some found => pure found
  | none => throw .outOfRange

/-- A year, with at least four digits; outside 0 to 9999 it has a sign. -/
def writeYear (year : Int) : List Char :=
  let digits := DecimalText.padded 4 year.natAbs
  if year < 0 then '-' :: digits
  else if 9999 < year then '+' :: digits
  else digits

end CalendarText

open CalendarText

namespace Date

def scanWhole : Scanner Date := do
  let (year, month, day) ← scanDate
  scanEnd
  existing (ofParts? year month day)

def read (text : List Char) : Except CalendarError Date :=
  scanWhole.run' text

def write (date : Date) : List Char :=
  writeYear date.year ++ '-' :: DecimalText.padded 2 date.month ++
    '-' :: DecimalText.padded 2 date.day

end Date

namespace TimeOfDay

def scanWhole : Scanner TimeOfDay := do
  let (hour, minute, second) ← scanTime
  scanEnd
  existing (ofParts? hour minute second)

def read (text : List Char) : Except CalendarError TimeOfDay :=
  scanWhole.run' text

def write (time : TimeOfDay) : List Char :=
  DecimalText.padded 2 time.hour ++ ':' :: DecimalText.padded 2 time.minute ++
    ':' :: DecimalText.padded 2 time.second

end TimeOfDay

namespace DateTime

/-- A date and a time of day that are the whole text; the white space between
them may be missing. -/
def scanWhole : Scanner DateTime := do
  let (year, month, day) ← scanDate
  scanBlank
  let (hour, minute, second) ← scanTime
  scanEnd
  let date ← existing (Date.ofParts? year month day)
  let time ← existing (TimeOfDay.ofParts? hour minute second)
  return ⟨date, time⟩

def read (text : List Char) : Except CalendarError DateTime :=
  scanWhole.run' text

/-- Writes a date and a time of day with `between` between them. -/
def writeWith (between : Char) (dateTime : DateTime) : List Char :=
  dateTime.date.write ++ between :: dateTime.time.write

end DateTime

end FilterSql
