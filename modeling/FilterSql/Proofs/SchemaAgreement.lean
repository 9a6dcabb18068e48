import FilterSql.Proofs.ParameterOrder
import FilterSql.Proofs.ValueIndependence

/-!
# Schemas that agree

Compilation asks a schema for the settled columns of the fields that a query
names, and for nothing else.  Two schemas agree on a field when neither lists it,
or when both settle it to the same texts and read its values alike.  Schemas that
agree on the fields of a query give it the same results and the same errors.

Hence the order of a schema, the fields that the query does not name, records
that were replaced later, and the way in which an unset text is spelled have no
part in what the query is compiled to.
-/

namespace FilterSql

open Traversal

namespace Column

/-- Whether two columns have the same texts and give the same result for every
raw value. -/
structure ActsAs (first second : Column) : Prop where
  names : first.SameNames second
  convert : ∀ raw, first.convert raw = second.convert raw

namespace ActsAs

variable {first second : Column}

theorem read_eq (alike : first.ActsAs second) : first.read = second.read := by
  funext raw
  rw [read, read, alike.convert]

theorem fragment_eq (alike : first.ActsAs second) (raw : String)
    (value : Value) (others : List Value) :
    first.fragment raw value others = second.fragment raw value others := by
  funext operator
  have expressionEq := alike.names.1
  cases operator <;>
    simp only [Column.fragment, compared, matched, tested, expressionEq]

end ActsAs

end Column

namespace Condition

theorem fragment_eq_of_actsAs (condition : Condition) {first second : Column}
    (alike : first.ActsAs second) :
    condition.fragment first = condition.fragment second := by
  have valuesEq :
      condition.convertedValues first = condition.convertedValues second := by
    rw [convertedValues, convertedValues, alike.read_eq]
  simp only [fragment, valuesEq, alike.fragment_eq]

end Condition

namespace FieldSpec

/-- The text that counts for a field: the recorded one if there is one and it is
not empty, and the name of the field otherwise. -/
def settled (field : String) (recorded : Option String) : String :=
  (recorded.filter (· ≠ "")).getD field

theorem orField_eq_settled (field : String) (recorded : Option String) :
    orField field recorded = settled field recorded := by
  cases recorded with
  | none => rfl
  | some text =>
      by_cases isEmpty : text = ""
      · simp [orField, settled, Option.filter, isEmpty]
      · simp [orField, settled, Option.filter, isEmpty]

theorem convert_resolve (spec : FieldSpec) (field raw : String) :
    (spec.resolve field).convert raw =
      (spec.converter.getD .text).convert raw := by
  cases converterEq : spec.converter <;>
    simp [resolve, Column.convert, converterEq, Converter.convert]

/-- Whether two records of a field settle it alike: the same texts count, and the
converters act the same, where values without a converter stay text. -/
structure SettlesAs (field : String) (first second : FieldSpec) : Prop where
  column : settled field first.column = settled field second.column
  aliasName : settled field first.aliasName = settled field second.aliasName
  converter : ∀ raw, (first.converter.getD .text).convert raw =
    (second.converter.getD .text).convert raw

namespace SettlesAs

variable {field : String} {first second : FieldSpec}

theorem refl (field : String) (spec : FieldSpec) : SettlesAs field spec spec :=
  ⟨rfl, rfl, fun _ => rfl⟩

theorem actsAs (alike : SettlesAs field first second) :
    (first.resolve field).ActsAs (second.resolve field) := by
  refine ⟨⟨?_, ?_⟩, ?_⟩
  · change orField field first.column = orField field second.column
    rw [orField_eq_settled, orField_eq_settled, alike.column]
  · change orField field first.aliasName = orField field second.aliasName
    rw [orField_eq_settled, orField_eq_settled, alike.aliasName]
  · intro raw
    rw [convert_resolve, convert_resolve, alike.converter]

end SettlesAs

/-- The ways to leave a text of a field unset: no text, the empty text, and the
name that the field has anyway. -/
def unsetSpellings (field : String) : List (Option String) :=
  [none, some "", some field]

theorem settled_of_mem_unsetSpellings {field : String}
    {spelling : Option String} (spellingMem : spelling ∈ unsetSpellings field) :
    settled field spelling = settled field none := by
  simp only [unsetSpellings, List.mem_cons, List.not_mem_nil, or_false]
    at spellingMem
  rcases spellingMem with rfl | rfl | rfl
  · rfl
  · rfl
  · by_cases isEmpty : field = ""
    · simp [settled, Option.filter, isEmpty]
    · simp [settled, Option.filter, isEmpty]

end FieldSpec

namespace Schema

/-- Whether two schemas agree on a field: neither lists it, or both list it and
settle it alike. -/
inductive Agree (first second : Schema) (field : String) : Prop where
  | unlisted (firstLacks : first.get? field = none)
      (secondLacks : second.get? field = none)
  | listed {firstSpec secondSpec : FieldSpec}
      (firstHas : first.get? field = some firstSpec)
      (secondHas : second.get? field = some secondSpec)
      (alike : FieldSpec.SettlesAs field firstSpec secondSpec)

/-- The schema with fields recorded one after another. -/
def insertAll (schema : Schema) (fields : List (String × FieldSpec)) : Schema :=
  fields.foldl (fun schema entry => schema.insert entry.1 entry.2) schema

variable {first second : Schema} {field : String}

theorem get?_insertAll_congr (same : first.get? field = second.get? field)
    (fields : List (String × FieldSpec)) :
    (first.insertAll fields).get? field =
      (second.insertAll fields).get? field := by
  induction fields generalizing first second with
  | nil => exact same
  | cons entry fields ih =>
      refine ih ?_
      rw [get?_insert, get?_insert, same]

namespace Agree

theorem of_get?_eq (same : first.get? field = second.get? field) :
    first.Agree second field := by
  cases firstGet : first.get? field with
  | none => exact .unlisted firstGet (same ▸ firstGet)
  | some spec => exact .listed firstGet (same ▸ firstGet) (.refl field spec)

/-- Records of one field that settle it alike may stand for each other. -/
theorem insert {schema : Schema} {firstSpec secondSpec : FieldSpec}
    {name : String}
    (alike : FieldSpec.SettlesAs name firstSpec secondSpec) :
    (schema.insert name firstSpec).Agree (schema.insert name secondSpec)
      field := by
  by_cases fieldEq : field = name
  · subst fieldEq
    refine .listed ?_ ?_ alike
    · rw [get?_insert, if_pos rfl]
    · rw [get?_insert, if_pos rfl]
  · apply of_get?_eq
    rw [get?_insert, get?_insert, if_neg fieldEq, if_neg fieldEq]

/-- Whatever goes on with the column of a field gives the same result when it
does so for columns that act alike. -/
theorem bind_eq {α : Type} (agree : first.Agree second field)
    {next otherNext : Column → Except CompileError α}
    (nextEq : ∀ column other, column.ActsAs other →
      next column = otherNext other) :
    (first.column field >>= next) = second.column field >>= otherNext := by
  cases agree with
  | unlisted firstLacks secondLacks =>
      rw [column, column, firstLacks, secondLacks]
      rfl
  | listed firstHas secondHas alike =>
      rw [column, column, firstHas, secondHas]
      exact nextEq _ _ alike.actsAs

/-- Column lists over items with agreed fields are the same. -/
theorem mapM_render_eq {α : Type} {fieldOf : α → String}
    {text : α → Column → String} {items : List α}
    (agree : ∀ item ∈ items, first.Agree second (fieldOf item))
    (respects : ∀ item column other, Column.SameNames column other →
      text item column = text item other) :
    items.mapM (first.render fieldOf text) =
      items.mapM (second.render fieldOf text) := by
  refine mapM_congr fun item itemMem => ?_
  refine (agree item itemMem).bind_eq fun column other alike => ?_
  rw [respects item column other alike.names]

end Agree

end Schema

namespace Condition

theorem fragmentIn_eq_of_agree {condition : Condition} {first second : Schema}
    (agree : first.Agree second condition.field) :
    condition.fragmentIn first = condition.fragmentIn second :=
  agree.bind_eq fun _ _ alike => condition.fragment_eq_of_actsAs alike

end Condition

namespace Query

/-- Whether a query is compiled to the same results over two schemas, or fails
with the same errors, in every form in which it is compiled. -/
structure SameCompilation (query : Query) (first second : Schema) : Prop where
  selectItems : query.selectItems first = query.selectItems second
  groupItems : query.groupItems first = query.groupItems second
  orderItems : query.orderItems first = query.orderItems second
  selectSql : query.selectSql first = query.selectSql second
  groupSql : query.groupSql first = query.groupSql second
  orderSql : query.orderSql first = query.orderSql second
  filter : query.filter first = query.filter second
  statement : ∀ table, query.statement first table = query.statement second table
  plan : ∀ relations, query.plan first relations = query.plan second relations

variable {query : Query} {first second : Schema}

/-- Everything is compiled from the column lists and the filter. -/
theorem sameCompilation_of_parts
    (selectEq : query.selectItems first = query.selectItems second)
    (groupEq : query.groupItems first = query.groupItems second)
    (orderEq : query.orderItems first = query.orderItems second)
    (filterEq : query.filter first = query.filter second) :
    query.SameCompilation first second := by
  have selectSqlEq : query.selectSql first = query.selectSql second := by
    rw [selectSql, selectSql, selectEq]
  have groupSqlEq : query.groupSql first = query.groupSql second := by
    rw [groupSql, groupSql, groupEq]
  have orderSqlEq : query.orderSql first = query.orderSql second := by
    rw [orderSql, orderSql, orderEq]
  have partsEq : query.parts first = query.parts second := by
    rw [parts, parts, selectSqlEq, filterEq, groupSqlEq, orderSqlEq]
  refine ⟨selectEq, groupEq, orderEq, selectSqlEq, groupSqlEq, orderSqlEq,
    filterEq, ?_, ?_⟩
  · intro table
    rw [statement_eq, statement_eq, partsEq]
  · intro relations
    rw [plan_eq, plan_eq, partsEq]

theorem sameCompilation_of_agree_fields
    (agree : ∀ field ∈ query.fields, first.Agree second field) :
    query.SameCompilation first second := by
  apply sameCompilation_of_parts
  · rw [selectItems_eq, selectItems_eq]
    refine Schema.Agree.mapM_render_eq ?_ ?_
    · exact fun field fieldMem => agree field (mem_fields_of_select fieldMem)
    · exact fun _ _ _ names => names.selection_eq
  · rw [groupItems_eq, groupItems_eq]
    refine Schema.Agree.mapM_render_eq ?_ ?_
    · exact fun field fieldMem => agree field (mem_fields_of_group fieldMem)
    · exact fun _ _ _ names => names.1
  · rw [orderItems_eq, orderItems_eq]
    refine Schema.Agree.mapM_render_eq ?_ ?_
    · exact fun entry entryMem => agree _ (field_mem_fields_of_sort entryMem)
    · intro _ _ _ names
      rw [names.1]
  · have fragmentsEq : Condition.fragments first query.conditions =
        Condition.fragments second query.conditions :=
      mapM_congr fun condition conditionMem =>
        Condition.fragmentIn_eq_of_agree
          (agree _ (field_mem_fields_of_condition conditionMem))
    rw [filter, filter, Condition.filter, Condition.filter, fragmentsEq]

theorem sameCompilation_of_get?_eq
    (same : ∀ field ∈ query.fields, first.get? field = second.get? field) :
    query.SameCompilation first second :=
  sameCompilation_of_agree_fields fun field fieldMem =>
    .of_get?_eq (same field fieldMem)

/-- A query is compiled alike over schemas that agree on its fields.  Hence
neither the order of a schema nor a field that is not named, a record that is
replaced later or the spelling of an unset text changes what is compiled. -/
theorem sameCompilation_of_agree (query : Query) :
    (∀ first second : Schema,
        (∀ field ∈ query.fields, first.Agree second field) →
          query.SameCompilation first second) ∧
      (∀ first second : Schema,
        first.fields.entries.Perm second.fields.entries →
          query.SameCompilation first second) ∧
      (∀ (schema : Schema) (field : String) (spec : FieldSpec),
        field ∉ query.fields →
          query.SameCompilation (schema.insert field spec) schema) ∧
      (∀ (schema : Schema) (field : String) (earlier later : FieldSpec)
          (between : List (String × FieldSpec)),
        query.SameCompilation
          (((schema.insert field earlier).insertAll between).insert field later)
          ((schema.insertAll between).insert field later)) ∧
      ∀ (schema : Schema) (field : String) (spec : FieldSpec),
        ∀ spelling ∈ FieldSpec.unsetSpellings field,
          query.SameCompilation
              (schema.insert field { spec with column := spelling })
              (schema.insert field { spec with column := none }) ∧
            query.SameCompilation
              (schema.insert field { spec with aliasName := spelling })
              (schema.insert field { spec with aliasName := none }) := by
  refine ⟨?_, ?_, ?_, ?_, ?_⟩
  · exact fun first second agree => sameCompilation_of_agree_fields agree
  · intro first second perm
    exact sameCompilation_of_get?_eq fun field _ =>
      OrderedMap.get?_eq_of_perm_entries perm field
  · intro schema field spec notMem
    refine sameCompilation_of_get?_eq fun name nameMem => ?_
    have nameNe : name ≠ field := fun nameEq => notMem (nameEq ▸ nameMem)
    rw [Schema.get?_insert, if_neg nameNe]
  · intro schema field earlier later between
    -- The field itself finds its later record, any other name what stood between.
    refine sameCompilation_of_get?_eq fun name _ => ?_
    rw [Schema.get?_insert, Schema.get?_insert]
    split
    case isTrue => rfl
    case isFalse nameNe =>
      refine Schema.get?_insertAll_congr ?_ between
      rw [Schema.get?_insert, if_neg nameNe]
  · intro schema field spec spelling spellingMem
    have settledEq := FieldSpec.settled_of_mem_unsetSpellings spellingMem
    constructor
    · refine sameCompilation_of_agree_fields fun name _ => .insert ?_
      exact ⟨settledEq, rfl, fun _ => rfl⟩
    · refine sameCompilation_of_agree_fields fun name _ => .insert ?_
      exact ⟨rfl, settledEq, fun _ => rfl⟩

/-- The fields of pets, with nothing spelled out. -/
def tersePetSchema : Schema :=
  .ofList
    [("age", ⟨none, none, some .integer⟩),
      ("name", ⟨some "pets.name", none, none⟩)]

/-- The same fields in another order and next to one more, with defaults spelled
out and with converters of other kinds that act the same. -/
def wordyPetSchema : Schema :=
  .ofList
    [("kind", .unset), ("name", ⟨some "pets.name", some "name", some .text⟩),
      ("age", ⟨some "", some "age",
        some (.custom 7 Converter.integer.convert)⟩)]

def namedPetQuery (sortField : String) : Query :=
  ⟨[⟨"age", "gte", ["3"]⟩, ⟨"name", "contain", ["x"]⟩], ["owner"], ["name"], [],
    [⟨sortField, true⟩], 5, 0⟩

/-- Two schemas of one meaning, for a query of listed fields and for one with a
field that neither lists; a schema in another order; one more field; and an
empty text for an unset one. -/
theorem sameCompilation_of_agree_of_wordyPetSchema :
    (∃ statement,
        (namedPetQuery "age").statement tersePetSchema "pets" =
            .ok statement ∧
          (namedPetQuery "age").statement wordyPetSchema "pets" =
            .ok statement) ∧
      (namedPetQuery "owner").statement wordyPetSchema "pets" =
        .error (.unknownField "owner") ∧
      (namedPetQuery "age").statement
          (.ofList tersePetSchema.fields.entries.reverse) "pets" =
        (namedPetQuery "age").statement tersePetSchema "pets" ∧
      (namedPetQuery "age").plan (tersePetSchema.insert "kind" .unset) .empty =
        .error (.unknownRelation "owner") ∧
      (namedPetQuery "age").selectItems
          (tersePetSchema.insert "name" ⟨none, some "", none⟩) =
        .ok ["name"] := by
  have agrees : ∀ sortField, tersePetSchema.Agree wordyPetSchema sortField →
      ∀ field ∈ (namedPetQuery sortField).fields,
        tersePetSchema.Agree wordyPetSchema field := by
    intro sortField sortAgrees field fieldMem
    have fieldEq : field = "age" ∨ field = "name" ∨ field = sortField := by
      simpa [fields, namedPetQuery] using fieldMem
    rcases fieldEq with rfl | rfl | rfl
    · exact .listed rfl rfl ⟨rfl, rfl, fun _ => rfl⟩
    · exact .listed rfl rfl ⟨rfl, rfl, fun _ => rfl⟩
    · exact sortAgrees
  refine ⟨⟨_, rfl, ?_⟩, ?_, ?_, ?_, ?_⟩
  · have same := (sameCompilation_of_agree (namedPetQuery "age")).1 _ _
      (agrees "age" (.listed rfl rfl ⟨rfl, rfl, fun _ => rfl⟩))
    exact (same.statement "pets").symm
  · have same := (sameCompilation_of_agree (namedPetQuery "owner")).1 _ _
      (agrees "owner" (.unlisted rfl rfl))
    exact (same.statement "pets").symm
  · have same := (sameCompilation_of_agree (namedPetQuery "age")).2.1
      (.ofList tersePetSchema.fields.entries.reverse) tersePetSchema
      (List.reverse_perm tersePetSchema.fields.entries)
    exact same.statement "pets"
  · have same := (sameCompilation_of_agree (namedPetQuery "age")).2.2.1
      tersePetSchema "kind" .unset (by decide)
    exact same.plan .empty
  · have same := (sameCompilation_of_agree (namedPetQuery "age")).2.2.2.2
      tersePetSchema "name" .unset (some "") (by decide)
    exact same.2.selectItems

end Query

end FilterSql
