import FilterSql.Query
import FilterSql.Schema

/-!
# Column lists

What a query selects, groups by and sorts by, each as a list of SQL expressions
and as one text.  A query selects the fields that it groups by and then those
that it accumulates.
-/

namespace FilterSql

namespace SortEntry

def direction (entry : SortEntry) : String :=
  if entry.descending then "DESC" else "ASC"

def sql (schema : Schema) (entry : SortEntry) :
    Except CompileError String := do
  let column ← schema.column entry.field
  return column.expression ++ " " ++ entry.direction

end SortEntry

namespace Schema

def selection (schema : Schema) (field : String) :
    Except CompileError String := do
  let column ← schema.column field
  return column.selection

def expression (schema : Schema) (field : String) :
    Except CompileError String := do
  let column ← schema.column field
  return column.expression

end Schema

namespace Query

def commaSeparated (items : List String) : String :=
  String.intercalate ", " items

def selectItems (query : Query) (schema : Schema) :
    Except CompileError (List String) :=
  (query.group ++ query.accumulator).mapM schema.selection

def groupItems (query : Query) (schema : Schema) :
    Except CompileError (List String) :=
  query.group.mapM schema.expression

def orderItems (query : Query) (schema : Schema) :
    Except CompileError (List String) :=
  query.sort.mapM (SortEntry.sql schema)

def selectSql (query : Query) (schema : Schema) :
    Except CompileError String := do
  return commaSeparated (← query.selectItems schema)

def groupSql (query : Query) (schema : Schema) :
    Except CompileError String := do
  return commaSeparated (← query.groupItems schema)

def orderSql (query : Query) (schema : Schema) :
    Except CompileError String := do
  return commaSeparated (← query.orderItems schema)

/-- The models of the related records to load, in the order of the request. -/
def models (query : Query) (relations : Relations) :
    Except CompileError (List String) :=
  query.relations.mapM relations.model

end Query

end FilterSql
