import FilterSql.Query
import FilterSql.Schema

/-!
# Filters

A condition becomes a fragment of SQL with at most one placeholder, and the
fragments of a query are joined into its filter.  The text of a fragment is made
of the column and the operator alone: values only ever become arguments.
-/

namespace FilterSql

/-- A piece of SQL with at most one placeholder, and the argument that is bound
to it. -/
structure Fragment where
  sql : String
  argument : Option Value

/-- SQL with the arguments of its placeholders, in order. -/
structure BoundSql where
  sql : String
  arguments : List Value

namespace Column

def asText (expression : String) : String :=
  "CAST(" ++ expression ++ " AS TEXT)"

def compared (column : Column) (symbol : String) (value : Value) : Fragment :=
  ⟨column.expression ++ " " ++ symbol ++ " ?", some value⟩

def matched (column : Column) (keyword raw : String) : Fragment :=
  ⟨asText column.expression ++ " " ++ keyword ++ " ?",
    some (Value.likePattern raw)⟩

def tested (column : Column) (keyword : String) (values : List Value) :
    Fragment :=
  ⟨column.expression ++ " " ++ keyword ++ " (?)", some (.list values)⟩

/-- The fragment of an operator, given the first raw value, its converted form
and the other converted values. -/
def fragment (column : Column) (raw : String) (first : Value)
    (others : List Value) : Operator → Fragment
  | .isNull => ⟨column.expression ++ " IS NULL", none⟩
  | .equal => column.compared "=" first
  | .notEqual => column.compared "!=" first
  | .greater => column.compared ">" first
  | .greaterOrEqual => column.compared ">=" first
  | .less => column.compared "<" first
  | .lessOrEqual => column.compared "<=" first
  | .containsAnyCase => column.matched "ILIKE" raw
  | .lacksAnyCase => column.matched "NOT ILIKE" raw
  | .contains => column.matched "LIKE" raw
  | .lacks => column.matched "NOT LIKE" raw
  | .among => column.tested "IN" (first :: others)
  | .notAmong => column.tested "NOT IN" (first :: others)

end Column

namespace Condition

/-- The first raw value of a condition, its converted form, and the other
converted values.  Every value is converted, whatever the operator makes of
it. -/
def convertedValues (condition : Condition) (column : Column) :
    Except CompileError (String × Value × List Value) :=
  match condition.values with
  | [] => .error (.noValues condition.field)
  | raw :: raws => do
      let first ← column.read raw
      let others ← raws.mapM column.read
      return (raw, first, others)

def resolvedOperator (condition : Condition) :
    Except CompileError Operator :=
  match Operator.ofName? condition.operator with
  | some operator => .ok operator
  | none => .error (.unknownOperator condition.operator)

def fragment (condition : Condition) (column : Column) :
    Except CompileError Fragment := do
  let operator ← condition.resolvedOperator
  let (raw, first, others) ← condition.convertedValues column
  return column.fragment raw first others operator

def fragmentIn (schema : Schema) (condition : Condition) :
    Except CompileError Fragment := do
  let column ← schema.column condition.field
  condition.fragment column

end Condition

namespace Fragment

/-- Joins fragments, all of which have to hold. -/
def conjunction (fragments : List Fragment) : BoundSql :=
  ⟨String.intercalate " AND " (fragments.map Fragment.sql),
    fragments.filterMap Fragment.argument⟩

end Fragment

namespace Condition

def fragments (schema : Schema) (conditions : List Condition) :
    Except CompileError (List Fragment) :=
  conditions.mapM (fragmentIn schema)

def filter (schema : Schema) (conditions : List Condition) :
    Except CompileError BoundSql := do
  return Fragment.conjunction (← fragments schema conditions)

end Condition

namespace Query

def filter (query : Query) (schema : Schema) :
    Except CompileError BoundSql :=
  Condition.filter schema query.conditions

end Query

end FilterSql
