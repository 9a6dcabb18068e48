import FilterSql.Json
import FilterSql.TimestampText

/-!
# Argument values

The typed values that are bound to the placeholders of a statement.  A list
stands for all values of a membership condition and is bound to one placeholder
until the statement is expanded.
-/

namespace FilterSql

/-- A value that is bound to a placeholder. -/
inductive Value where
  | text (content : String)
  | integer (number : Int64)
  | float (number : Binary64)
  | boolean (truth : Bool)
  | date (day : Date)
  | dateTime (moment : DateTime)
  | time (clock : TimeOfDay)
  | timestamp (moment : Timestamp)
  | list (items : List Value)

namespace Value

def isList : Value → Bool
  | list _ => true
  | _ => false

/-- The pattern that matches every text with `raw` in it. -/
def likePattern (raw : String) : Value :=
  text ("%" ++ raw ++ "%")

mutual

/-- Whether two values are of one kind and equal by the equality of that kind. -/
def same : Value → Value → Bool
  | text first, text second => first == second
  | integer first, integer second => first == second
  | float first, float second => first == second
  | boolean first, boolean second => first == second
  | date first, date second => first == second
  | dateTime first, dateTime second => first == second
  | time first, time second => first == second
  | timestamp first, timestamp second => first == second
  | list first, list second => sameItems first second
  | _, _ => false

/-- Whether two lists have the same values in the same order. -/
def sameItems : List Value → List Value → Bool
  | [], [] => true
  | first :: firstRest, second :: secondRest =>
      same first second && sameItems firstRest secondRest
  | _, _ => false

end

instance : BEq Value :=
  ⟨same⟩

mutual

def display : Value → String
  | text content => "'" ++ content ++ "'"
  | integer number => IntegerText.write number
  | float number => String.ofList number.text
  | boolean truth => if truth then "true" else "false"
  | date day => String.ofList day.write
  | dateTime moment => String.ofList (moment.writeWith ' ')
  | time clock => String.ofList clock.write
  | timestamp moment => String.ofList moment.write
  | list items => "[" ++ String.intercalate ", " (displayItems items) ++ "]"

/-- How each value of a list is shown. -/
def displayItems : List Value → List String
  | [] => []
  | first :: rest => display first :: displayItems rest

end

mutual

/-- A value in JSON, where its kind is not recorded. -/
def toJson : Value → Json
  | text content => .string content
  | integer number => .integer number.toInt
  | float number => .decimal number
  | boolean truth => .boolean truth
  | date day => .string (String.ofList day.write)
  | dateTime moment => .string (String.ofList (moment.writeWith 'T'))
  | time clock => .string (String.ofList clock.write)
  | timestamp moment => .string (String.ofList moment.writeZulu)
  | list items => .array (toJsonItems items)

/-- Each value of a list in JSON. -/
def toJsonItems : List Value → List Json
  | [] => []
  | first :: rest => toJson first :: toJsonItems rest

end

end Value

end FilterSql
