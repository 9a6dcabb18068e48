import FilterSql.Proofs.Traversal
import FilterSql.SelectStatement
import Mathlib.Algebra.GroupWithZero.Nat

/-!
# What compilation gives

A successful compilation is described part by part: what each column list holds
for a field, what a condition needs to become a fragment, and how the parts make
the statement.  A statement and a plan are made of the same parts.
-/

namespace FilterSql

open Traversal

namespace Schema

variable {schema : Schema}

/-- The text of an item that names a field.  Every column list is a traversal
with such a step. -/
def render {α : Type} (schema : Schema) (fieldOf : α → String)
    (text : α → Column → String) (item : α) : Except CompileError String := do
  let column ← schema.column (fieldOf item)
  return text item column

theorem render_eq_ok_iff {α : Type} {fieldOf : α → String}
    {text : α → Column → String} {item : α} {result : String} :
    schema.render fieldOf text item = .ok result ↔
      ∃ column, schema.column (fieldOf item) = .ok column ∧
        text item column = result := by
  simp only [render, bind_eq_ok_iff, pure_eq_ok_iff]

end Schema

namespace Relations

variable {relations : Relations} {relation : String}

/-- Whether a related record cannot be loaded. -/
def lacks (relations : Relations) (relation : String) : Bool :=
  (relations.get? relation).isNone

theorem model_eq_ok_iff {model : String} :
    relations.model relation = .ok model ↔
      relations.get? relation = some model := by
  unfold Relations.model
  cases relations.get? relation <;> simp

theorem failure?_model :
    failure? (relations.model relation) =
      if relations.lacks relation then some (.unknownRelation relation)
      else none := by
  unfold Relations.model lacks
  cases relations.get? relation <;> rfl

end Relations

namespace Condition

variable {schema : Schema} {condition : Condition}

theorem resolvedOperator_eq_ok_iff {operator : Operator} :
    condition.resolvedOperator = .ok operator ↔
      Operator.ofName? condition.operator = some operator := by
  unfold resolvedOperator
  cases Operator.ofName? condition.operator <;> simp

theorem convertedValues_eq_ok_iff {column : Column} {raw : String}
    {first : Value} {others : List Value} :
    condition.convertedValues column = .ok (raw, first, others) ↔
      ∃ raws, condition.values = raw :: raws ∧ column.read raw = .ok first ∧
        raws.mapM column.read = .ok others := by
  unfold convertedValues
  cases condition.values with
  | nil => simp
  | cons firstRaw raws =>
      simp only [bind_eq_ok_iff, pure_eq_ok_iff, Prod.mk.injEq, List.cons.injEq]
      constructor
      · rintro ⟨_, firstOk, _, othersOk, rfl, rfl, rfl⟩
        exact ⟨raws, ⟨rfl, rfl⟩, firstOk, othersOk⟩
      · rintro ⟨_, ⟨rfl, rfl⟩, firstOk, othersOk⟩
        exact ⟨first, firstOk, others, othersOk, rfl, rfl, rfl⟩

/-- Values that are missing are an error, and otherwise the conversion of each of
them decides. -/
theorem failure?_convertedValues_eq (condition : Condition) (column : Column) :
    failure? (condition.convertedValues column) =
      if condition.values = [] then some (.noValues condition.field)
      else failure? (condition.values.mapM column.read) := by
  unfold convertedValues
  cases condition.values with
  | nil => rfl
  | cons raw raws =>
      rw [if_neg (List.cons_ne_nil _ _), List.mapM_cons]
      -- The first value is kept apart from the others, and is converted first.
      trans (failure? (column.read raw)).or (failure? (raws.mapM column.read))
      · exact failure?_bind fun _ _ => failure?_bind_pure _ _
      · exact (failure?_bind fun _ _ => failure?_bind_pure _ _).symm

/-- A fragment comes from a listed field, a known operator and values that are
all converted. -/
theorem fragmentIn_eq_ok_iff {fragment : Fragment} :
    condition.fragmentIn schema = .ok fragment ↔
      ∃ column operator raw raws first others,
        schema.column condition.field = .ok column ∧
          Operator.ofName? condition.operator = some operator ∧
          condition.values = raw :: raws ∧ column.read raw = .ok first ∧
          raws.mapM column.read = .ok others ∧
          column.fragment raw first others operator = fragment := by
  simp only [fragmentIn, Condition.fragment, bind_eq_ok_iff, pure_eq_ok_iff,
    resolvedOperator_eq_ok_iff, Prod.exists, convertedValues_eq_ok_iff]
  constructor
  · rintro ⟨column, columnOk, operator, operatorOk, raw, first, others,
      ⟨raws, valuesEq, firstOk, othersOk⟩, rfl⟩
    exact ⟨column, operator, raw, raws, first, others, columnOk, operatorOk,
      valuesEq, firstOk, othersOk, rfl⟩
  · rintro ⟨column, operator, raw, raws, first, others, columnOk, operatorOk,
      valuesEq, firstOk, othersOk, rfl⟩
    exact ⟨column, columnOk, operator, operatorOk, raw, first, others,
      ⟨raws, valuesEq, firstOk, othersOk⟩, rfl⟩

theorem filter_eq_ok_iff {conditions : List Condition} {bound : BoundSql} :
    filter schema conditions = .ok bound ↔
      ∃ fragments, Condition.fragments schema conditions = .ok fragments ∧
        Fragment.conjunction fragments = bound := by
  simp only [filter, bind_eq_ok_iff, pure_eq_ok_iff]

end Condition

namespace Fragment

theorem length_arguments_conjunction (fragments : List Fragment) :
    (conjunction fragments).arguments.length =
      (fragments.map fun fragment => fragment.argument.toList.length).sum := by
  rw [conjunction, List.filterMap_eq_flatMap_toList, List.length_flatMap]

end Fragment

namespace Query

variable {query : Query} {schema : Schema}

/-- The fields that a query names. -/
def fields (query : Query) : List String :=
  query.conditions.map Condition.field ++ query.group ++ query.accumulator ++
    query.sort.map SortEntry.field

theorem field_mem_fields_of_condition {condition : Condition}
    (conditionMem : condition ∈ query.conditions) :
    condition.field ∈ query.fields := by
  have fieldMem : condition.field ∈ query.conditions.map Condition.field :=
    List.mem_map_of_mem conditionMem
  simp only [fields, List.append_assoc]
  exact List.mem_append_left _ fieldMem

theorem mem_fields_of_select {field : String}
    (fieldMem : field ∈ query.group ++ query.accumulator) :
    field ∈ query.fields := by
  rcases List.mem_append.mp fieldMem with groupMem | accumulatorMem
  · simp [fields, groupMem]
  · simp [fields, accumulatorMem]

theorem mem_fields_of_group {field : String} (fieldMem : field ∈ query.group) :
    field ∈ query.fields :=
  mem_fields_of_select (List.mem_append_left _ fieldMem)

theorem field_mem_fields_of_sort {entry : SortEntry}
    (entryMem : entry ∈ query.sort) : entry.field ∈ query.fields :=
  List.mem_append_right _ (List.mem_map_of_mem entryMem)

theorem selectItems_eq (query : Query) (schema : Schema) :
    query.selectItems schema = (query.group ++ query.accumulator).mapM
      (schema.render id fun _ column => column.selection) :=
  rfl

theorem groupItems_eq (query : Query) (schema : Schema) :
    query.groupItems schema =
      query.group.mapM (schema.render id fun _ column => column.expression) :=
  rfl

theorem orderItems_eq (query : Query) (schema : Schema) :
    query.orderItems schema =
      query.sort.mapM (schema.render SortEntry.field fun entry column =>
        column.expression ++ " " ++ entry.direction) :=
  rfl

/-- The parts of a query's statement and the arguments of its filter. -/
def parts (query : Query) (schema : Schema) :
    Except CompileError (SelectParts × List Value) := do
  let select ← query.selectSql schema
  let condition ← query.filter schema
  let group ← query.groupSql schema
  let order ← query.orderSql schema
  return (⟨select, condition.sql, group, order, query.limit, query.skip⟩,
    condition.arguments)

theorem statement_eq (query : Query) (schema : Schema) (table : String) :
    query.statement schema table = (query.parts schema).map fun compiled =>
      ⟨compiled.1.statement table, compiled.2⟩ := by
  rw [← bind_pure_eq_map]
  simp only [statement, parts, bind_assoc, pure_bind]

theorem plan_eq (query : Query) (schema : Schema) (relations : Relations) :
    query.plan schema relations = do
      let compiled ← query.parts schema
      let models ← query.models relations
      return ⟨compiled.1, compiled.2, models⟩ := by
  simp only [plan, parts, bind_assoc, pure_bind]

theorem statement_eq_ok_iff {table : String} {statement : BoundSql} :
    query.statement schema table = .ok statement ↔
      ∃ parts arguments, query.parts schema = .ok (parts, arguments) ∧
        ⟨parts.statement table, arguments⟩ = statement := by
  rw [statement_eq]
  cases query.parts schema with
  | error => simp [Except.map]
  | ok compiled =>
      obtain ⟨parts, arguments⟩ := compiled
      simp [Except.map]

theorem plan_eq_ok_iff {relations : Relations} {plan : Plan} :
    query.plan schema relations = .ok plan ↔
      query.parts schema = .ok (plan.parts, plan.arguments) ∧
        query.models relations = .ok plan.models := by
  obtain ⟨parts, arguments, models⟩ := plan
  rw [plan_eq]
  simp only [bind_eq_ok_iff, pure_eq_ok_iff, Plan.mk.injEq]
  constructor
  · rintro ⟨_, partsOk, _, modelsOk, rfl, rfl, rfl⟩
    exact ⟨partsOk, modelsOk⟩
  · rintro ⟨partsOk, modelsOk⟩
    exact ⟨_, partsOk, _, modelsOk, rfl, rfl, rfl⟩

/-- The parts are the joined items of the column lists and the joined
fragments. -/
theorem parts_eq_ok_iff {parts : SelectParts} {arguments : List Value} :
    query.parts schema = .ok (parts, arguments) ↔
      ∃ select fragments group order,
        query.selectItems schema = .ok select ∧
          Condition.fragments schema query.conditions = .ok fragments ∧
          query.groupItems schema = .ok group ∧
          query.orderItems schema = .ok order ∧
          parts = ⟨commaSeparated select, (Fragment.conjunction fragments).sql,
            commaSeparated group, commaSeparated order, query.limit,
            query.skip⟩ ∧
          arguments = (Fragment.conjunction fragments).arguments := by
  simp only [Query.parts, selectSql, Query.filter, Condition.filter_eq_ok_iff,
    groupSql, orderSql, bind_eq_ok_iff, pure_eq_ok_iff, Prod.mk.injEq]
  constructor
  · rintro ⟨_, ⟨select, selectOk, rfl⟩, _, ⟨fragments, fragmentsOk, rfl⟩, _,
      ⟨group, groupOk, rfl⟩, _, ⟨order, orderOk, rfl⟩, rfl, rfl⟩
    exact ⟨select, fragments, group, order, selectOk, fragmentsOk, groupOk,
      orderOk, rfl, rfl⟩
  · rintro ⟨select, fragments, group, order, selectOk, fragmentsOk, groupOk,
      orderOk, rfl, rfl⟩
    exact ⟨_, ⟨select, selectOk, rfl⟩, _, ⟨fragments, fragmentsOk, rfl⟩, _,
      ⟨group, groupOk, rfl⟩, _, ⟨order, orderOk, rfl⟩, rfl, rfl⟩

end Query

end FilterSql
