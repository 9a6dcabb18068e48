import FilterSql.Binary64Text
import FilterSql.FormCoding
import FilterSql.OrderedMap

/-!
# JSON values

JSON values with their compact text.  A number without fraction and exponent is
an integer of any size; every other number is a double-precision number.  The
members of an object keep their order.  Of several members with one name the
last one counts, at the place of the first, and the others are never looked at.
-/

namespace FilterSql

inductive Json where
  | null
  | boolean (value : Bool)
  | integer (value : Int)
  | decimal (value : Binary64)
  | string (text : String)
  | array (items : List Json)
  | object (members : List (String × Json))

namespace Json

/-- How a character is written inside a string.  Only the quote, the backslash
and the control characters are escaped. -/
def escapeCharacter (character : Char) : List Char :=
  if character = '"' then ['\\', '"']
  else if character = '\\' then ['\\', '\\']
  else if character = '\x08' then ['\\', 'b']
  else if character = '\t' then ['\\', 't']
  else if character = '\n' then ['\\', 'n']
  else if character = '\x0C' then ['\\', 'f']
  else if character = '\r' then ['\\', 'r']
  else if character.toNat < 0x20 then
    ['\\', 'u', '0', '0', Nat.digitChar (character.toNat / 16),
      Nat.digitChar (character.toNat % 16)]
  else [character]

def writeString (text : String) : List Char :=
  '"' :: text.toList.flatMap escapeCharacter ++ ['"']

/-- How a double-precision number is written; an infinity has no numeral. -/
def writeDecimal (value : Binary64) : List Char :=
  if value.isInfinite then "null".toList else value.exponentText

mutual

def write : Json → List Char
  | null => "null".toList
  | boolean value => (if value then "true" else "false").toList
  | integer value => DecimalText.integer value
  | decimal value => writeDecimal value
  | string text => writeString text
  | array [] => ['[', ']']
  | array (first :: rest) => '[' :: write first ++ writeItems rest
  | object [] => ['{', '}']
  | object ((name, first) :: rest) =>
      '{' :: writeString name ++ ':' :: write first ++ writeMembers rest

/-- The items after the first one, up to the closing bracket. -/
def writeItems : List Json → List Char
  | [] => [']']
  | first :: rest => ',' :: write first ++ writeItems rest

/-- The members after the first one, up to the closing brace. -/
def writeMembers : List (String × Json) → List Char
  | [] => ['}']
  | (name, first) :: rest =>
      ',' :: writeString name ++ ':' :: write first ++ writeMembers rest

end

def text (value : Json) : String :=
  String.ofList value.write

/-- The members of an object by name; of a repeated name the last value stays. -/
def members? : Json → Option (OrderedMap Json)
  | object members => some (OrderedMap.ofList members)
  | _ => none

def member? (value : Json) (name : String) : Option Json :=
  value.members?.bind fun members => members.get? name

/-- The slots of a record.  A record is an object, whose unknown members are
ignored, or an array of its fields in order, which may end early but not hold
more. -/
def record? (fields : List String) : Json → Option (List (Option Json))
  | object members => some (fields.map (OrderedMap.ofList members).get?)
  | array items =>
      if items.length ≤ fields.length then
        some (items.map some ++
          List.replicate (fields.length - items.length) none)
      else none
  | _ => none

def string? : Json → Option String
  | string text => some text
  | _ => none

def boolean? : Json → Option Bool
  | boolean value => some value
  | _ => none

def int64? : Json → Option Int64
  | integer value =>
      if Int64.minValue.toInt ≤ value ∧ value ≤ Int64.maxValue.toInt then
        some (Int64.ofInt value)
      else none
  | _ => none

/-- The items of an array, each read by `read`. -/
def list? {α : Type} (read : Json → Option α) : Json → Option (List α)
  | array items => items.mapM read
  | _ => none

def ofStrings (texts : List String) : Json :=
  array (texts.map string)

def strings? : Json → Option (List String) :=
  list? string?

/-- A part that may be missing, read by `read` when it is there. -/
def orElse {α : Type} (fallback : α) (read : Json → Option α) :
    Option Json → Option α
  | none => some fallback
  | some value => read value

/-- The one name that selects a variant without contents: the name itself, or an
object with the name as its only member and null under it. -/
def variant? : Json → Option String
  | string name => some name
  | object members =>
      match (OrderedMap.ofList members).entries with
      | [(name, null)] => some name
      | _ => none
  | _ => none

end Json

end FilterSql
