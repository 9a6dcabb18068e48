import FilterSql.CalendarText

/-!
# Timestamps in text

A timestamp is a date, a time of day with an optional fraction of a second, and
an offset from universal time: `2007-12-14T12:07:07.5+01:00`.  It is read by
position, without white space, and written with as many of 0, 3, 6 or 9 digits of
a second as are needed.
-/

namespace FilterSql

open CalendarText

namespace Timestamp

/-- Two digits.  One character of a single byte is too short for them. -/
def scanPair : Scanner Nat
  | first :: second :: rest =>
      if first.isDigit && second.isDigit then
        .ok (DecimalText.valueOf [first, second], rest)
      else .error .invalidCharacters
  | [only] =>
      if only.utf8Size = 1 then .error .prematureEnd
      else .error .invalidCharacters
  | [] => .error .prematureEnd

def scanFour : Scanner Nat := do
  let century ← scanPair
  let year ← scanPair
  return 100 * century + year

/-- A date, which has to exist. -/
def scanDay : Scanner Date := do
  let year ← scanFour
  scanMark '-'
  let month ← scanPair
  scanMark '-'
  let day ← scanPair
  existing (Date.ofParts? year month day)

/-- The mark between the date and the time: a `T` of either case or a space. -/
def scanBetween : Scanner Unit
  | [] => .error .prematureEnd
  | first :: rest =>
      if first ∈ ['T', 't', ' '] then .ok ((), rest)
      else .error .invalidCharacters

/-- The nanoseconds that one to nine digits after a decimal point give. -/
def nanoseconds (digits : List Char) : Nat :=
  DecimalText.valueOf digits * Nat.pow 10 (9 - digits.length)

/-- An optional fraction of a second; what follows its ninth digit is dropped. -/
def scanFraction : Scanner Nat
  | '.' :: rest =>
      if rest.isEmpty then .error .prematureEnd
      else
        match DecimalText.takeDigits 9 rest with
        | ([], _) => .error .invalidCharacters
        | (digits, after) =>
            .ok (nanoseconds digits, (DecimalText.takeAllDigits after).2)
  | text => .ok (0, text)

/-- A time of day, which has to exist, and its nanoseconds. -/
def scanClock : Scanner (TimeOfDay × Nat) := do
  let hour ← scanPair
  scanMark ':'
  let minute ← scanPair
  scanMark ':'
  let second ← scanPair
  let nanosecond ← scanFraction
  let time ← existing (TimeOfDay.ofParts? hour minute second)
  return (time, nanosecond)

/-- The sign of an offset, true for a minus; the minus sign of mathematics is
one, too. -/
def scanSign : Scanner Bool
  | [] => .error .prematureEnd
  | first :: rest =>
      if first = '+' then .ok (false, rest)
      else if first = '-' || first = '\u2212' then .ok (true, rest)
      else .error .invalidCharacters

/-- A sign with hours and minutes.  The hours are not bounded here. -/
def scanSignedOffset : Scanner Int := do
  let negative ← scanSign
  let hours ← scanPair
  scanMark ':'
  let minutes ← scanPair
  let total ← within (hours * 60 + minutes) (minutes < 60)
  return IntegerText.signed negative total

/-- An offset in minutes: `Z` of either case, or a sign with hours and
minutes. -/
def scanOffset : Scanner Int
  | 'Z' :: rest => .ok (0, rest)
  | 'z' :: rest => .ok (0, rest)
  | text => scanSignedOffset text

/-- The timestamp with the given parts, if its offset is less than a day. -/
def ofParts? (date : Date) (time : TimeOfDay) (nanosecond : Nat)
    (offset : Int) : Option Timestamp :=
  if exist : nanosecond < 1000000000 ∧ -1440 < offset ∧ offset < 1440 then
    some ⟨date, time, nanosecond, offset, exist.1, exist.2⟩
  else none

def scanWhole : Scanner Timestamp := do
  let date ← scanDay
  scanBetween
  let (time, nanosecond) ← scanClock
  let offset ← scanOffset
  scanEnd
  existing (ofParts? date time nanosecond offset)

/-- The number of bytes that a date and a time of day take. -/
def leastSize : Nat := 19

def byteCount (text : List Char) : Nat :=
  text.foldl (fun size character => size + character.utf8Size) 0

def read (text : List Char) : Except CalendarError Timestamp :=
  if byteCount text < leastSize then .error .prematureEnd
  else scanWhole.run' text

/-- The fraction of a second, in groups of three digits. -/
def writeFraction (nanosecond : Nat) : List Char :=
  if nanosecond = 0 then []
  else if nanosecond % 1000000 = 0 then
    '.' :: DecimalText.padded 3 (nanosecond / 1000000)
  else if nanosecond % 1000 = 0 then
    '.' :: DecimalText.padded 6 (nanosecond / 1000)
  else '.' :: DecimalText.padded 9 nanosecond

def writeOffset (offset : Int) : List Char :=
  (if offset < 0 then '-' else '+') ::
    DecimalText.padded 2 (offset.natAbs / 60) ++
    ':' :: DecimalText.padded 2 (offset.natAbs % 60)

/-- Writes everything but the offset. -/
def writeLocal (timestamp : Timestamp) : List Char :=
  DateTime.writeWith 'T' ⟨timestamp.date, timestamp.time⟩ ++
    writeFraction timestamp.nanosecond

def write (timestamp : Timestamp) : List Char :=
  timestamp.writeLocal ++ writeOffset timestamp.offset

/-- Writes a timestamp with `Z` for universal time. -/
def writeZulu (timestamp : Timestamp) : List Char :=
  timestamp.writeLocal ++
    if timestamp.offset = 0 then ['Z'] else writeOffset timestamp.offset

end Timestamp

end FilterSql
