import FilterSql.DecimalText

/-!
# Signed 64-bit integers in text

An integer is an optional sign followed by digits, any number of leading zeros
among them.  A run of digits that already leaves the 64-bit range is refused for
its size, even when something else follows it; every other deviation is an
invalid digit.
-/

namespace FilterSql

/-- Why a text is not a signed 64-bit integer. -/
inductive IntegerError where
  | empty
  | invalidDigit
  | tooLarge
  | tooSmall
  deriving DecidableEq, Repr

namespace IntegerError

def message : IntegerError → String
  | empty => "cannot parse integer from empty string"
  | invalidDigit => "invalid digit found in string"
  | tooLarge => "number too large to fit in target type"
  | tooSmall => "number too small to fit in target type"

end IntegerError

namespace IntegerText

/-- Takes an optional sign off the front; the flag says whether it was a minus. -/
def splitSign : List Char → Bool × List Char
  | '-' :: rest => (true, rest)
  | '+' :: rest => (false, rest)
  | text => (false, text)

/-- The value of a magnitude under a sign. -/
def signed (negative : Bool) (magnitude : Nat) : Int :=
  if negative then -(magnitude : Int) else magnitude

def readUnsigned (negative : Bool) (text : List Char) :
    Except IntegerError Int64 :=
  let (digits, rest) := DecimalText.takeAllDigits text
  let value := signed negative (DecimalText.valueOf digits)
  if Int64.maxValue.toInt < value then .error .tooLarge
  else if value < Int64.minValue.toInt then .error .tooSmall
  else if digits.isEmpty || !rest.isEmpty then .error .invalidDigit
  else .ok (Int64.ofInt value)

def read (text : String) : Except IntegerError Int64 :=
  if text.isEmpty then .error .empty
  else
    let (negative, rest) := splitSign text.toList
    readUnsigned negative rest

def write (number : Int64) : String :=
  String.ofList (DecimalText.integer number.toInt)

end IntegerText

end FilterSql
