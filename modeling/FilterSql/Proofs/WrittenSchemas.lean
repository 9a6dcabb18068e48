import FilterSql.Proofs.JsonReading
import FilterSql.Proofs.Traversal
import FilterSql.SchemaJson

/-!
# Written schemas

A schema can be written as JSON unless it holds a supplied converter, which has no
name to write.  What is written reads back as the schema itself, with its fields
in their order and with every record as it stands: what is unset is left out and
stays unset, and an empty text is written and stays empty.
-/

namespace FilterSql

open Traversal

namespace Converter

variable {converter : Converter}

theorem name?_eq_none_iff :
    converter.name? = none ↔
      ∃ identity read, converter = custom identity read := by
  cases converter <;> simp [name?]

theorem ofName?_of_name? {name : String} (named : converter.name? = some name) :
    ofName? name = some converter := by
  cases converter <;> cases named <;> rfl

theorem toJson_eq_ok_iff {json : Json} :
    converter.toJson = .ok json ↔
      ∃ name, converter.name? = some name ∧ .string name = json := by
  unfold toJson
  cases converter.name? <;> simp

theorem exists_toJson_eq_error_iff :
    (∃ error, converter.toJson = .error error) ↔
      ∃ identity read, converter = custom identity read := by
  rw [← name?_eq_none_iff, toJson]
  cases converter.name? with
  | none => exact ⟨fun _ => rfl, fun _ => ⟨.unnamedConverter, rfl⟩⟩
  | some name => simp

end Converter

namespace FieldSpec

variable {spec : FieldSpec} {converterName : Option String}

/-- Whether a converter and the name that stands for it are both unset, or the
converter has the name. -/
inductive Names : Option Converter → Option String → Prop where
  | unset : Names none none
  | named {converter : Converter} {name : String}
      (named : converter.name? = some name) : Names (some converter) (some name)

theorem converterMembers_eq_ok_iff {converter : Option Converter}
    {members : List (String × Json)} :
    converterMembers converter = .ok members ↔
      ∃ converterName, Names converter converterName ∧
        textMembers "converter" converterName = members := by
  cases converter with
  | none =>
      constructor
      · rintro ⟨⟩
        exact ⟨none, .unset, rfl⟩
      · rintro ⟨_, ⟨⟩, rfl⟩
        rfl
  | some converter =>
      simp only [converterMembers, bind_eq_ok_iff, pure_eq_ok_iff,
        Converter.toJson_eq_ok_iff]
      constructor
      · rintro ⟨_, ⟨name, named, rfl⟩, rfl⟩
        exact ⟨some name, .named named, rfl⟩
      · rintro ⟨_, _ | named, rfl⟩
        exact ⟨_, ⟨_, named, rfl⟩, rfl⟩

/-- The object of a record, with a name for its converter. -/
def written (spec : FieldSpec) (converterName : Option String) : Json :=
  .object
    (textMembers "column" spec.column ++ textMembers "alias" spec.aliasName ++
      textMembers "converter" converterName)

/-- A record is written when its converter has a name, if there is a converter. -/
theorem toJson_eq_ok_iff {json : Json} :
    spec.toJson = .ok json ↔
      ∃ converterName, Names spec.converter converterName ∧
        spec.written converterName = json := by
  simp only [toJson, bind_eq_ok_iff, pure_eq_ok_iff, converterMembers_eq_ok_iff]
  constructor
  · rintro ⟨_, ⟨converterName, names, rfl⟩, rfl⟩
    exact ⟨converterName, names, rfl⟩
  · rintro ⟨converterName, names, rfl⟩
    exact ⟨_, ⟨converterName, names, rfl⟩, rfl⟩

theorem exists_toJson_eq_error_iff :
    (∃ error, spec.toJson = .error error) ↔
      ∃ identity read, spec.converter = some (.custom identity read) := by
  rw [toJson, exists_bind_pure_eq_error_iff]
  cases spec.converter with
  | none => simp [converterMembers]
  | some converter =>
      simp only [converterMembers, exists_bind_pure_eq_error_iff,
        Converter.exists_toJson_eq_error_iff, Option.some.injEq]

/-- What is unset has no member, and everything else has one. -/
theorem record?_written (spec : FieldSpec) (converterName : Option String) :
    (spec.written converterName).record? partNames = some
      [spec.column.map .string, spec.aliasName.map .string,
        converterName.map .string] := by
  obtain ⟨column, aliasName, converter⟩ := spec
  cases column <;> cases aliasName <;> cases converterName <;> rfl

theorem partOfJson?_text (recorded : Option String) :
    partOfJson? Json.string? (recorded.map .string) = some recorded := by
  cases recorded <;> rfl

theorem partOfJson?_converter {converter : Option Converter}
    (names : Names converter converterName) :
    partOfJson? Converter.ofJson? (converterName.map .string) =
      some converter := by
  cases names with
  | unset => rfl
  | named named =>
      simp [partOfJson?, Converter.ofJson?, Json.variant?,
        Converter.ofName?_of_name? named]

/-- A written record reads back. -/
theorem ofJson?_written (names : Names spec.converter converterName) :
    ofJson? (spec.written converterName) = some spec := by
  simp only [ofJson?, record?_written, partOfJson?_text,
    partOfJson?_converter names]
  rfl

theorem integral_textMembers (name : String) (recorded : Option String) :
    ∀ member ∈ textMembers name recorded, member.2.Integral := by
  cases recorded with
  | none => simp [textMembers]
  | some text => simpa [textMembers] using Json.Integral.string text

theorem integral_written (spec : FieldSpec) (converterName : Option String) :
    (spec.written converterName).Integral := by
  refine .object fun member memberMem => ?_
  simp only [List.mem_append] at memberMem
  rcases memberMem with (columnMem | aliasMem) | converterMem
  · exact integral_textMembers _ _ member columnMem
  · exact integral_textMembers _ _ member aliasMem
  · exact integral_textMembers _ _ member converterMem

end FieldSpec

namespace Schema

variable {schema : Schema}

theorem memberOfField_eq_ok_iff {entry : String × FieldSpec}
    {member : String × Json} :
    memberOfField entry = .ok member ↔
      entry.1 = member.1 ∧ entry.2.toJson = .ok member.2 := by
  obtain ⟨name, json⟩ := member
  simp only [memberOfField, bind_eq_ok_iff, pure_eq_ok_iff, Prod.mk.injEq]
  constructor
  · rintro ⟨_, written, nameEq, rfl⟩
    exact ⟨nameEq, written⟩
  · rintro ⟨nameEq, written⟩
    exact ⟨json, written, nameEq, rfl⟩

theorem exists_memberOfField_eq_error_iff {entry : String × FieldSpec} :
    (∃ error, memberOfField entry = .error error) ↔
      ∃ identity read, entry.2.converter = some (.custom identity read) := by
  rw [memberOfField, exists_bind_pure_eq_error_iff,
    FieldSpec.exists_toJson_eq_error_iff]

theorem toJson_eq_ok_iff {json : Json} :
    schema.toJson = .ok json ↔
      ∃ members, schema.fields.entries.mapM memberOfField = .ok members ∧
        .object members = json := by
  simp only [toJson, bind_eq_ok_iff, pure_eq_ok_iff]

/-- A schema cannot be written exactly when a field has a supplied converter. -/
theorem exists_toJson_eq_error_iff :
    (∃ error, schema.toJson = .error error) ↔
      ∃ field spec identity read, schema.get? field = some spec ∧
        spec.converter = some (.custom identity read) := by
  rw [toJson, exists_bind_pure_eq_error_iff, exists_mapM_eq_error_iff]
  simp only [exists_memberOfField_eq_error_iff, get?,
    OrderedMap.get?_eq_some_iff]
  constructor
  · rintro ⟨⟨field, spec⟩, entryMem, identity, read, supplied⟩
    exact ⟨field, spec, identity, read, entryMem, supplied⟩
  · rintro ⟨field, spec, identity, read, entryMem, supplied⟩
    exact ⟨(field, spec), entryMem, identity, read, supplied⟩

/-- The members of a written schema are named by its fields, in their order. -/
theorem names_of_mapM_memberOfField {entries : List (String × FieldSpec)}
    {members : List (String × Json)}
    (written : entries.mapM memberOfField = .ok members) :
    members.map Prod.fst = entries.map Prod.fst := by
  rw [mapM_eq_ok_iff] at written
  rw [eq_comm, map_eq_map_iff]
  exact written.imp fun _ _ memberOk => (memberOfField_eq_ok_iff.mp memberOk).1

/-- A written field reads back. -/
theorem read_of_memberOfField {entry : String × FieldSpec}
    {member : String × Json} (written : memberOfField entry = .ok member) :
    ((FieldSpec.ofJson? member.2).map fun spec => (member.1, spec)) =
      some entry := by
  obtain ⟨nameEq, recordOk⟩ := memberOfField_eq_ok_iff.mp written
  obtain ⟨_, names, jsonEq⟩ := FieldSpec.toJson_eq_ok_iff.mp recordOk
  rw [← jsonEq, FieldSpec.ofJson?_written names, ← nameEq]
  rfl

/-- A written schema reads back, with its fields in their order. -/
theorem ofJson?_of_toJson {json : Json} (written : schema.toJson = .ok json) :
    ofJson? json = some schema := by
  obtain ⟨members, membersOk, rfl⟩ := toJson_eq_ok_iff.mp written
  have distinct : (members.map Prod.fst).Nodup := by
    rw [names_of_mapM_memberOfField membersOk]
    exact schema.fields.keysDistinct
  have membersRead := reads_of_mapM (fun _ _ => read_of_memberOfField) membersOk
  have fieldsRead := OrderedMap.traverse_ofList distinct membersRead
  rw [OrderedMap.ofList_entries] at fieldsRead
  simp only [ofJson?, Json.members?, Option.bind_eq_bind, Option.bind_some,
    fieldsRead]
  rfl

theorem integral_of_toJson {json : Json} (written : schema.toJson = .ok json) :
    json.Integral := by
  obtain ⟨members, membersOk, rfl⟩ := toJson_eq_ok_iff.mp written
  refine .object (forall_of_mapM (fun entry _ member memberOk => ?_) membersOk)
  obtain ⟨_, recordOk⟩ := memberOfField_eq_ok_iff.mp memberOk
  obtain ⟨converterName, _, jsonEq⟩ := FieldSpec.toJson_eq_ok_iff.mp recordOk
  rw [← jsonEq]
  exact FieldSpec.integral_written entry.2 converterName

/-- The JSON form of a schema is faithful, however the schema was built up.
Writing fails exactly when some field has a supplied converter.  What is written
reads back, as a value and as a text, as the schema itself: its fields in their
order, and in each of them the column, the alias and the converter, set or
unset. -/
theorem toJson_faithful (schema : Schema) :
    ((∃ error, schema.toJson = .error error) ↔
      ∃ field spec identity read, schema.get? field = some spec ∧
        spec.converter = some (.custom identity read)) ∧
    ∀ json, schema.toJson = .ok json →
      ofJson? json = some schema ∧
        (Json.ofText? json.text).bind ofJson? = some schema := by
  refine ⟨exists_toJson_eq_error_iff, fun json written => ?_⟩
  have readBack := ofJson?_of_toJson written
  refine ⟨readBack, ?_⟩
  rw [Json.ofText?_text (integral_of_toJson written), Option.bind_some,
    readBack]

/-- The fields of a diary: one with a quote in its name and an empty expression,
one that is recorded anew where it stands, and one that stands for itself. -/
def diarySchema : Schema :=
  (Schema.ofList
      [("the \"day\"", ⟨some "", none, some .date⟩),
        ("seen", ⟨none, some "s", none⟩), ("mood", .unset)]).insert
    "seen" ⟨some "d.seen_at", none, some .dateTime⟩

/-- A supplied converter for the moods leaves the diary without a JSON form. -/
theorem toJson_faithful_of_diarySchema :
    (∃ json, diarySchema.toJson = .ok json ∧
      json.text =
        "\x7b\"the \\\"day\\\"\":\x7b\"column\":\"\",\"converter\":\"date\"\x7d," ++
          "\"seen\":\x7b\"column\":\"d.seen_at\",\"converter\":\"datetime\"\x7d," ++
          "\"mood\":\x7b\x7d\x7d" ∧
      ofJson? json = some diarySchema ∧
      (Json.ofText? json.text).bind ofJson? = some diarySchema) ∧
    ∃ error, (diarySchema.insert "mood" ⟨none, none,
      some (.custom 0 fun raw => .ok (.text raw))⟩).toJson = .error error := by
  refine ⟨⟨_, rfl, rfl, (toJson_faithful diarySchema).2 _ rfl⟩, ?_⟩
  exact (toJson_faithful _).1.mpr ⟨"mood", _, 0, _, rfl, rfl⟩

end Schema

end FilterSql
