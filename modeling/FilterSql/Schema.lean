import FilterSql.CompileError
import FilterSql.OrderedMap

/-!
# Schemas

A schema says for every field that a query may name which SQL expression it
stands for, under which alias it is selected, and how its values are read.  An
expression or alias that is unset or empty is the name of the field itself.  A
query can name no field that the schema does not list.

`Relations` does the same for the related records that a query may load.
-/

namespace FilterSql

/-- What a schema records about a field. -/
structure FieldSpec where
  column : Option String
  aliasName : Option String
  converter : Option Converter

namespace FieldSpec

def unset : FieldSpec :=
  ⟨none, none, none⟩

instance : BEq FieldSpec :=
  ⟨fun first second =>
    first.column == second.column && first.aliasName == second.aliasName &&
      first.converter == second.converter⟩

end FieldSpec

/-- A field whose column and alias are settled. -/
structure Column where
  expression : String
  aliasName : String
  converter : Option Converter

namespace Column

/-- The expression with its alias, which is left out when it adds nothing. -/
def selection (column : Column) : String :=
  if column.aliasName = column.expression then column.expression
  else column.expression ++ " AS " ++ column.aliasName

/-- Reads the raw text of a parameter; without a converter it stays text. -/
def convert (column : Column) (raw : String) :
    Except ConversionError Value :=
  match column.converter with
  | some converter => converter.convert raw
  | none => .ok (.text raw)

/-- Reads the raw text of a parameter while a query is compiled. -/
def read (column : Column) (raw : String) : Except CompileError Value :=
  (column.convert raw).mapError .conversion

end Column

namespace FieldSpec

/-- A recorded text, or the name of the field when none is recorded. -/
def orField (field : String) : Option String → String
  | none => field
  | some recorded => if recorded.isEmpty then field else recorded

def resolve (field : String) (spec : FieldSpec) : Column :=
  ⟨orField field spec.column, orField field spec.aliasName, spec.converter⟩

end FieldSpec

/-- The fields that a query may name. -/
structure Schema where
  fields : OrderedMap FieldSpec

namespace Schema

def empty : Schema :=
  ⟨OrderedMap.empty⟩

/-- The schema with a field recorded; a replaced field keeps its position. -/
def insert (schema : Schema) (field : String) (spec : FieldSpec) : Schema :=
  ⟨schema.fields.insert field spec⟩

/-- The schema of a list of fields; the last record of a repeated field stays. -/
def ofList (fields : List (String × FieldSpec)) : Schema :=
  ⟨OrderedMap.ofList fields⟩

def get? (schema : Schema) (field : String) : Option FieldSpec :=
  schema.fields.get? field

theorem get?_insert (schema : Schema) (field : String) (spec : FieldSpec)
    (other : String) :
    (schema.insert field spec).get? other =
      if other = field then some spec else schema.get? other :=
  schema.fields.get?_insert field spec other

def size (schema : Schema) : Nat :=
  schema.fields.size

def isEmpty (schema : Schema) : Bool :=
  schema.fields.isEmpty

/-- The settled column of a field. -/
def column (schema : Schema) (field : String) : Except CompileError Column :=
  match schema.get? field with
  | some spec => .ok (spec.resolve field)
  | none => .error (.unknownField field)

instance : BEq Schema :=
  ⟨fun first second => first.fields == second.fields⟩

end Schema

/-- The models behind the related records that a query may load. -/
structure Relations where
  models : OrderedMap String

namespace Relations

def empty : Relations :=
  ⟨OrderedMap.empty⟩

/-- The relations with one more; a replaced relation keeps its position. -/
def insert (relations : Relations) (relation model : String) : Relations :=
  ⟨relations.models.insert relation model⟩

/-- The relations of a list; the last model of a repeated relation stays. -/
def ofList (models : List (String × String)) : Relations :=
  ⟨OrderedMap.ofList models⟩

def get? (relations : Relations) (relation : String) : Option String :=
  relations.models.get? relation

def model (relations : Relations) (relation : String) :
    Except CompileError String :=
  match relations.get? relation with
  | some model => .ok model
  | none => .error (.unknownRelation relation)

instance : BEq Relations :=
  ⟨fun first second => first.models == second.models⟩

end Relations

end FilterSql
