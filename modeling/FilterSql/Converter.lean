import FilterSql.Value

/-!
# Converters

A converter reads the raw text of a parameter as a value of one kind.  Besides
the eight kinds that a table of fields can name, a program can supply converters
of its own; such a converter is known by an identity and has no name.
-/

namespace FilterSql

/-- Why a converter refuses a text. -/
inductive ConversionError where
  | integer (text : String) (cause : IntegerError)
  | float (text : String)
  | boolean (text : String)
  | date (text : String) (cause : CalendarError)
  | dateTime (text : String) (cause : CalendarError)
  | time (text : String) (cause : CalendarError)
  | timestamp (text : String) (cause : CalendarError)
  /-- Raised by a supplied converter in its own words. -/
  | custom (message : String)
  deriving DecidableEq, Repr

namespace ConversionError

/-- The wording for a text of some kind. -/
def about (kind text : String) : String :=
  "invalid " ++ kind ++ " '" ++ text ++ "': "

def message : ConversionError → String
  | integer text cause => about "integer" text ++ cause.message
  | float text => "invalid float: '" ++ text ++ "'"
  | boolean text => "invalid boolean: '" ++ text ++ "'"
  | date text cause => about "date" text ++ cause.message
  | dateTime text cause => about "datetime" text ++ cause.message
  | time text cause => about "time" text ++ cause.message
  | timestamp text cause => about "timestamp" text ++ cause.message
  | custom message => message

end ConversionError

/-- How the raw text of a field is read. -/
inductive Converter where
  | text
  | integer
  | boolean
  | float
  | date
  | dateTime
  | time
  | timestamp
  /-- A supplied converter, with the identity that tells it from others. -/
  | custom (identity : Nat) (read : String → Except ConversionError Value)

namespace Converter

def trueTexts : List String :=
  ["1", "t", "T", "TRUE", "true", "True"]

def falseTexts : List String :=
  ["0", "f", "F", "FALSE", "false", "False"]

def readBoolean (raw : String) : Except ConversionError Value :=
  if raw ∈ trueTexts then .ok (.boolean true)
  else if raw ∈ falseTexts then .ok (.boolean false)
  else .error (.boolean raw)

def readFloat (raw : String) : Except ConversionError Value :=
  match Binary64.ofText? raw.toList with
  | some number => .ok (.float number)
  | none => .error (.float raw)

/-- Reads a text with a reader that gives a cause when it fails. -/
def readWith {α cause : Type} (value : α → Value)
    (error : String → cause → ConversionError)
    (reading : Except cause α) (raw : String) :
    Except ConversionError Value :=
  match reading with
  | .ok result => .ok (value result)
  | .error reason => .error (error raw reason)

def convert (converter : Converter) (raw : String) :
    Except ConversionError Value :=
  match converter with
  | text => .ok (.text raw)
  | integer => readWith .integer .integer (IntegerText.read raw) raw
  | boolean => readBoolean raw
  | float => readFloat raw
  | date => readWith .date .date (Date.read raw.toList) raw
  | dateTime => readWith .dateTime .dateTime (DateTime.read raw.toList) raw
  | time => readWith .time .time (TimeOfDay.read raw.toList) raw
  | timestamp => readWith .timestamp .timestamp (Timestamp.read raw.toList) raw
  | custom _ read => read raw

/-- The converters that have a name. -/
def named : List Converter :=
  [text, integer, boolean, float, date, dateTime, time, timestamp]

/-- The name of a converter in a table of fields; a supplied one has none. -/
def name? : Converter → Option String
  | text => some "string"
  | integer => some "int"
  | boolean => some "bool"
  | float => some "float"
  | date => some "date"
  | dateTime => some "datetime"
  | time => some "time"
  | timestamp => some "iso8601"
  | custom _ _ => none

def ofName? (name : String) : Option Converter :=
  named.find? fun converter => converter.name? == some name

/-- How a converter is shown to a programmer. -/
def label : Converter → String
  | text => "String"
  | integer => "Int"
  | boolean => "Bool"
  | float => "Float"
  | date => "Date"
  | dateTime => "DateTime"
  | time => "Time"
  | timestamp => "Iso8601"
  | custom _ _ => "Custom(..)"

/-- Whether two converters are the same: of one named kind, or supplied with one
identity. -/
def same : Converter → Converter → Bool
  | custom first _, custom second _ => first == second
  | custom _ _, _ => false
  | _, custom _ _ => false
  | first, second => first.name? == second.name?

instance : BEq Converter :=
  ⟨same⟩

def ofJson? (value : Json) : Option Converter :=
  value.variant?.bind ofName?

end Converter

/-- Why a value cannot be written as JSON. -/
inductive WritingError where
  /-- A supplied converter has no name to write. -/
  | unnamedConverter
  deriving DecidableEq, Repr

namespace WritingError

def message : WritingError → String
  | unnamedConverter =>
      "the enum variant TypeConverter::Custom cannot be serialized"

end WritingError

namespace Converter

def toJson (converter : Converter) : Except WritingError Json :=
  match converter.name? with
  | some name => .ok (.string name)
  | none => .error .unnamedConverter

end Converter

end FilterSql
