import FilterSql.Json
import FilterSql.Query

/-!
# Queries in JSON

A query is an object with seven members, written in a fixed order.  Reading
accepts records also as arrays; every part of a query may be missing, while a
condition and a sort entry need all of theirs.
-/

namespace FilterSql

namespace Operator

def ofJson? (value : Json) : Option Operator :=
  value.variant?.bind ofName?

def toJson (operator : Operator) : Json :=
  .string operator.name

end Operator

namespace Condition

def ofJson? (value : Json) : Option Condition :=
  match value.record? ["field", "op", "values"] with
  | some [some field, some operator, some values] => do
      return ⟨← field.string?, ← operator.string?, ← values.strings?⟩
  | _ => none

def toJson (condition : Condition) : Json :=
  .object
    [("field", .string condition.field), ("op", .string condition.operator),
      ("values", .ofStrings condition.values)]

end Condition

namespace SortEntry

def ofJson? (value : Json) : Option SortEntry :=
  match value.record? ["field", "reverse"] with
  | some [some field, some descending] => do
      return ⟨← field.string?, ← descending.boolean?⟩
  | _ => none

def toJson (entry : SortEntry) : Json :=
  .object
    [("field", .string entry.field), ("reverse", .boolean entry.descending)]

end SortEntry

namespace Query

/-- The names of the parts of a query, in the order in which they are written. -/
def partNames : List String :=
  ["conditions", "with", "group", "accumulator", "sort", "limit", "skip"]

def ofJson? (value : Json) : Option Query :=
  match value.record? partNames with
  | some [conditions, relations, group, accumulator, sort, limit, skip] => do
      let conditions ← Json.orElse [] (Json.list? Condition.ofJson?) conditions
      let relations ← Json.orElse [] Json.strings? relations
      let group ← Json.orElse [] Json.strings? group
      let accumulator ← Json.orElse [] Json.strings? accumulator
      let sort ← Json.orElse [] (Json.list? SortEntry.ofJson?) sort
      let limit ← Json.orElse 0 Json.int64? limit
      let skip ← Json.orElse 0 Json.int64? skip
      return ⟨conditions, relations, group, accumulator, sort, limit, skip⟩
  | _ => none

def toJson (query : Query) : Json :=
  .object
    [("conditions", .array (query.conditions.map Condition.toJson)),
      ("with", .ofStrings query.relations),
      ("group", .ofStrings query.group),
      ("accumulator", .ofStrings query.accumulator),
      ("sort", .array (query.sort.map SortEntry.toJson)),
      ("limit", .integer query.limit.toInt),
      ("skip", .integer query.skip.toInt)]

end Query

end FilterSql
