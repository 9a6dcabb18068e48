import FilterSql.IntegerText
import FilterSql.Parameters
import FilterSql.Query

/-!
# Queries as query strings

A condition is a parameter whose key is the field and the operator joined by an
underscore; its values are the parameter's values.  Six reserved keys hold the
other parts of the query.  Reading drops every parameter that describes no valid
condition and fails only on a limit or skip that is not an integer.
-/

namespace FilterSql

namespace Query

/-- The key of the related records to load. -/
def relationsKey : String := "with"

def groupKey : String := "group"

def accumulatorKey : String := "accumulator"

def sortKey : String := "sort"

def limitKey : String := "limit"

def skipKey : String := "skip"

/-- The keys that never describe a condition. -/
def reservedKeys : List String :=
  [relationsKey, groupKey, accumulatorKey, sortKey, limitKey, skipKey]

def isReserved (key : String) : Bool :=
  key ∈ reservedKeys

end Query

namespace Condition

/-- The text before the last separator and the text after it, if there is a
separator. -/
def splitLast? (separator : Char) :
    List Char → Option (List Char × List Char)
  | [] => none
  | first :: rest =>
      match splitLast? separator rest with
      | some (before, after) => some (first :: before, after)
      | none => if first = separator then some ([], rest) else none

/-- Splits a key at its last underscore into a field and an operator. -/
def splitKey? (key : String) : Option (String × String) :=
  (splitLast? '_' key.toList).map fun (field, operator) =>
    (String.ofList field, String.ofList operator)

/-- The key of a condition's parameter. -/
def key (condition : Condition) : String :=
  condition.field ++ "_" ++ condition.operator

/-- The condition that a parameter describes, if it describes a valid one. -/
def ofParameter? (key : String) (values : List String) : Option Condition :=
  if Query.isReserved key then none
  else
    match splitKey? key with
    | none => none
    | some (field, operator) =>
        let condition := ⟨field, operator, values⟩
        if condition.isValid then some condition else none

end Condition

/-- A limit or skip that is not an integer. -/
structure NumberError where
  key : String
  value : String
  cause : IntegerError
  deriving DecidableEq, Repr

namespace NumberError

def message (error : NumberError) : String :=
  "invalid number for '" ++ error.key ++ "': '" ++ error.value ++ "' (" ++
    error.cause.message ++ ")"

end NumberError

namespace Parameters

/-- The number that the first value under a key gives; an absent key and an
empty first value give zero. -/
def number (parameters : Parameters) (key : String) :
    Except NumberError Int64 :=
  match parameters.first? key with
  | none => .ok 0
  | some value =>
      if value.isEmpty then .ok 0
      else (IntegerText.read value).mapError fun cause => ⟨key, value, cause⟩

/-- The conditions that the parameters describe, in the order of their keys. -/
def conditions (parameters : Parameters) : List Condition :=
  parameters.entries.filterMap fun (key, values) =>
    Condition.ofParameter? key values

end Parameters

namespace Query

def ofParameters (parameters : Parameters) : Except NumberError Query := do
  let limit ← parameters.number limitKey
  let skip ← parameters.number skipKey
  return {
    conditions := parameters.conditions
    relations := parameters.getAll relationsKey
    group := parameters.getAll groupKey
    accumulator := parameters.getAll accumulatorKey
    sort := (parameters.getAll sortKey).map SortEntry.ofText
    limit := limit
    skip := skip }

def ofQueryString (text : String) : Except NumberError Query :=
  ofParameters (Parameters.ofQueryString text)

/-- The pair of a number that differs from zero. -/
def numberPairs (key : String) (number : Int64) : List (String × String) :=
  if number = 0 then [] else [(key, IntegerText.write number)]

/-- The pairs that describe a query: one for every value of every condition,
then the other parts in a fixed order.  Zero numbers are left out. -/
def pairs (query : Query) : List (String × String) :=
  query.conditions.flatMap (fun condition =>
      condition.values.map fun value => (condition.key, value)) ++
    query.relations.map (fun relation => (relationsKey, relation)) ++
    query.group.map (fun field => (groupKey, field)) ++
    query.accumulator.map (fun field => (accumulatorKey, field)) ++
    query.sort.map (fun entry => (sortKey, entry.text)) ++
    numberPairs limitKey query.limit ++ numberPairs skipKey query.skip

def toQueryString (query : Query) : String :=
  String.ofList (FormCoding.encodePairs query.pairs)

end Query

end FilterSql
