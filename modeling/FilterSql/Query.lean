import FilterSql.Operator

/-!
# Filter queries

A query asks for rows: conditions that must all hold, related records to load
along with the rows, the fields to group by and to accumulate, a sort order, and
a page given by a limit and a number of rows to skip.  Nothing in it is checked
against a database.
-/

namespace FilterSql

/-- A predicate on one field.  The operator is kept as it was written. -/
structure Condition where
  field : String
  operator : String
  values : List String
  deriving DecidableEq, Repr

namespace Condition

/-- Whether the operator is in the vocabulary and neither the field nor the list
of values is empty. -/
def isValid (condition : Condition) : Bool :=
  (Operator.ofName? condition.operator).isSome && !condition.field.isEmpty &&
    !condition.values.isEmpty

end Condition

/-- One entry of a sort order. -/
structure SortEntry where
  field : String
  descending : Bool
  deriving DecidableEq, Repr

namespace SortEntry

/-- Reads a sort entry; a leading dash means descending. -/
def ofText (text : String) : SortEntry :=
  match text.toList with
  | '-' :: field => ⟨String.ofList field, true⟩
  | _ => ⟨text, false⟩

/-- Writes a sort entry; a descending one starts with a dash. -/
def text (entry : SortEntry) : String :=
  if entry.descending then "-" ++ entry.field else entry.field

end SortEntry

/-- A request for rows. -/
structure Query where
  conditions : List Condition
  relations : List String
  group : List String
  accumulator : List String
  sort : List SortEntry
  limit : Int64
  skip : Int64
  deriving DecidableEq

namespace Query

/-- The query that asks for every row. -/
def everything : Query :=
  ⟨[], [], [], [], [], 0, 0⟩

end Query

end FilterSql
