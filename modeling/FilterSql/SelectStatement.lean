import FilterSql.Filter
import FilterSql.ColumnLists

/-!
# Select statements

A query compiled into a `SELECT` statement over a table, directly or by way of a
plan that keeps every compiled part.  A clause without contents is left out, an
empty selection selects everything, and a limit or offset of zero is not
written.
-/

namespace FilterSql

/-- The parts of a `SELECT` statement. -/
structure SelectParts where
  select : String
  condition : String
  group : String
  order : String
  limit : Int64
  offset : Int64

namespace SelectParts

/-- A clause with its keyword, left out when it has no contents. -/
def clause (keyword contents : String) : String :=
  if contents.isEmpty then "" else keyword ++ contents

/-- A clause with a number, left out when the number is zero. -/
def numberClause (keyword : String) (number : Int64) : String :=
  if number = 0 then "" else keyword ++ IntegerText.write number

/-- The statement over a table. -/
def statement (parts : SelectParts) (table : String) : String :=
  "SELECT " ++ (if parts.select.isEmpty then "*" else parts.select) ++
    " FROM " ++ table ++ clause " WHERE " parts.condition ++
    clause " GROUP BY " parts.group ++ clause " ORDER BY " parts.order ++
    numberClause " LIMIT " parts.limit ++ numberClause " OFFSET " parts.offset

end SelectParts

/-- Every compiled part of a query. -/
structure Plan where
  parts : SelectParts
  arguments : List Value
  models : List String

namespace Plan

/-- The statement of a plan over a table; the related records have no part in
it. -/
def statement (plan : Plan) (table : String) : String :=
  plan.parts.statement table

def toJson (plan : Plan) : Json :=
  .object
    [("select", .string plan.parts.select),
      ("where", .string plan.parts.condition),
      ("where_args", .array (plan.arguments.map Value.toJson)),
      ("group", .string plan.parts.group),
      ("order", .string plan.parts.order),
      ("limit", .integer plan.parts.limit.toInt),
      ("offset", .integer plan.parts.offset.toInt),
      ("preload", .ofStrings plan.models)]

end Plan

namespace Query

/-- Compiles a query into a statement over a table. -/
def statement (query : Query) (schema : Schema) (table : String) :
    Except CompileError BoundSql := do
  let select ← query.selectSql schema
  let condition ← query.filter schema
  let group ← query.groupSql schema
  let order ← query.orderSql schema
  let parts : SelectParts :=
    ⟨select, condition.sql, group, order, query.limit, query.skip⟩
  return ⟨parts.statement table, condition.arguments⟩

def plan (query : Query) (schema : Schema) (relations : Relations) :
    Except CompileError Plan := do
  let select ← query.selectSql schema
  let condition ← query.filter schema
  let group ← query.groupSql schema
  let order ← query.orderSql schema
  let models ← query.models relations
  return {
    parts := ⟨select, condition.sql, group, order, query.limit, query.skip⟩
    arguments := condition.arguments
    models := models }

end Query

end FilterSql
