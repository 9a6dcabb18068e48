import FilterSql.Schema

/-!
# Schemas in JSON

A schema is an object with a record for every field, in the order of the fields;
what is unset is left out.  Reading accepts the record also as an array and takes
null for unset.
-/

namespace FilterSql

namespace FieldSpec

/-- The names of the parts of a record. -/
def partNames : List String :=
  ["column", "alias", "converter"]

/-- Reads a part that may be unset. -/
def partOfJson? {α : Type} (read : Json → Option α) :
    Option Json → Option (Option α)
  | none => some none
  | some .null => some none
  | some value => (read value).map some

def ofJson? (value : Json) : Option FieldSpec :=
  match value.record? partNames with
  | some [column, aliasName, converter] => do
      let column ← partOfJson? Json.string? column
      let aliasName ← partOfJson? Json.string? aliasName
      let converter ← partOfJson? Converter.ofJson? converter
      return ⟨column, aliasName, converter⟩
  | _ => none

/-- The members of a recorded text. -/
def textMembers (name : String) : Option String → List (String × Json)
  | none => []
  | some recorded => [(name, .string recorded)]

/-- The members of a recorded converter, which needs a name. -/
def converterMembers :
    Option Converter → Except WritingError (List (String × Json))
  | none => .ok []
  | some converter => do return [("converter", ← converter.toJson)]

def toJson (spec : FieldSpec) : Except WritingError Json := do
  let converter ← converterMembers spec.converter
  return .object
    (textMembers "column" spec.column ++ textMembers "alias" spec.aliasName ++
      converter)

end FieldSpec

namespace Schema

def ofJson? (value : Json) : Option Schema := do
  let members ← value.members?
  return ⟨← members.traverse FieldSpec.ofJson?⟩

/-- Writes a field with its record as a member of an object. -/
def memberOfField (field : String × FieldSpec) :
    Except WritingError (String × Json) := do
  return (field.1, ← field.2.toJson)

def toJson (schema : Schema) : Except WritingError Json := do
  return .object (← schema.fields.entries.mapM memberOfField)

end Schema

namespace Relations

/-- Reads relations from an object with the models. -/
def ofJson? (value : Json) : Option Relations := do
  let members ← value.members?
  return ⟨← members.traverse Json.string?⟩

/-- Writes relations as an object with the models. -/
def toJson (relations : Relations) : Json :=
  .object (relations.models.entries.map fun (relation, model) =>
    (relation, .string model))

end Relations

end FilterSql
