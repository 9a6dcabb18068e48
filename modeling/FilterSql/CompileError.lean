import FilterSql.Converter

/-!
# Errors of compilation

A query is compiled as a whole or not at all; the first obstacle is reported.
-/

namespace FilterSql

/-- Why a query cannot be compiled. -/
inductive CompileError where
  | unknownField (field : String)
  | unknownOperator (operator : String)
  | unknownRelation (relation : String)
  /-- A condition on the field has no value. -/
  | noValues (field : String)
  /-- The converter of a field refuses a value. -/
  | conversion (cause : ConversionError)
  deriving DecidableEq, Repr

namespace CompileError

def message : CompileError → String
  | unknownField field => "invalid field: '" ++ field ++ "'"
  | unknownOperator operator => "invalid operator: '" ++ operator ++ "'"
  | unknownRelation relation => "invalid preload: '" ++ relation ++ "'"
  | noValues field => "condition on '" ++ field ++ "' has no values"
  | conversion cause => cause.message

end CompileError

end FilterSql
