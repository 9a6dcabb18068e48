import FilterSql.Proofs.CompilationChecks
import FilterSql.Proofs.SchemaAgreement

/-!
# The selection and the grouping

A query groups by fields that it also selects, and the two lists are made by two
passes over the query.  They agree position by position: what is grouped by is
the expression that is selected, without the alias.  Since the selection looks up
every field of the grouping, and does so first, a query never fails at its
grouping.
-/

namespace FilterSql

open Traversal

namespace Schema

variable {schema : Schema} {field : String}

theorem column_eq_ok_iff {column : Column} :
    schema.column field = .ok column ↔
      ∃ spec, schema.get? field = some spec ∧ spec.resolve field = column := by
  unfold Schema.column
  cases schema.get? field <;> simp

/-- What is selected for a field and what is grouped by come from one record of
the schema. -/
theorem selection_eq_ok_iff {item : String} :
    schema.selection field = .ok item ↔
      ∃ spec, schema.get? field = some spec ∧
        (spec.resolve field).selection = item := by
  simp only [selection, bind_eq_ok_iff, pure_eq_ok_iff, column_eq_ok_iff]
  constructor
  · rintro ⟨_, ⟨spec, listed, rfl⟩, selected⟩
    exact ⟨spec, listed, selected⟩
  · rintro ⟨spec, listed, selected⟩
    exact ⟨_, ⟨spec, listed, rfl⟩, selected⟩

theorem expression_of_get? {spec : FieldSpec}
    (listed : schema.get? field = some spec) :
    schema.expression field = .ok (FieldSpec.settled field spec.column) := by
  have columnOk : schema.column field = .ok (spec.resolve field) :=
    column_eq_ok_iff.mpr ⟨spec, listed, rfl⟩
  rw [expression, columnOk, ← FieldSpec.orField_eq_settled]
  rfl

end Schema

namespace FieldSpec

theorem selection_resolve (field : String) (spec : FieldSpec) :
    (spec.resolve field).selection =
      if settled field spec.aliasName = settled field spec.column then
        settled field spec.column
      else
        settled field spec.column ++ " AS " ++ settled field spec.aliasName := by
  rw [← orField_eq_settled, ← orField_eq_settled]
  rfl

end FieldSpec

namespace Query

variable {query : Query} {schema : Schema}

/-- Whether a selection and a grouping of a query stand in line.  There is an item
for every field, and a field that is grouped by has the same expression in both
lists, with its alias added in the selection when the alias is another text. -/
structure Aligned (query : Query) (schema : Schema)
    (selected grouped : List String) : Prop where
  length_selected :
    selected.length = query.group.length + query.accumulator.length
  length_grouped : grouped.length = query.group.length
  ofGroup : ∀ (index : Nat) (field : String), query.group[index]? = some field →
    ∃ spec item, schema.get? field = some spec ∧
      FieldSpec.settled field spec.column = item ∧
      grouped[index]? = some item ∧
      selected[index]? = some
        (if FieldSpec.settled field spec.aliasName = item then item
          else item ++ " AS " ++ FieldSpec.settled field spec.aliasName)
  ofAccumulator : ∀ (index : Nat) (field : String),
    query.accumulator[index]? = some field →
    ∃ spec item, schema.get? field = some spec ∧
      FieldSpec.settled field spec.column = item ∧
      selected[query.group.length + index]? = some
        (if FieldSpec.settled field spec.aliasName = item then item
          else item ++ " AS " ++ FieldSpec.settled field spec.aliasName)

/-- A selected field is listed, and its item is its expression under its
alias. -/
theorem item_of_selectItems {selected : List String}
    (selectOk : query.selectItems schema = .ok selected) {index : Nat}
    {field : String}
    (fieldAt : (query.group ++ query.accumulator)[index]? = some field) :
    ∃ spec, schema.get? field = some spec ∧
      selected[index]? = some
        (if FieldSpec.settled field spec.aliasName =
            FieldSpec.settled field spec.column then
          FieldSpec.settled field spec.column
        else
          FieldSpec.settled field spec.column ++ " AS " ++
            FieldSpec.settled field spec.aliasName) := by
  obtain ⟨item, itemAt, itemOk⟩ := exists_getElem?_of_mapM selectOk fieldAt
  obtain ⟨spec, listed, rfl⟩ := Schema.selection_eq_ok_iff.mp itemOk
  exact ⟨spec, listed, by rw [itemAt, FieldSpec.selection_resolve]⟩

theorem exists_groupItems_of_selectItems {selected : List String}
    (selectOk : query.selectItems schema = .ok selected) :
    ∃ grouped, query.groupItems schema = .ok grouped := by
  have selectSqlOk : failure? (query.selectSql schema) = none := by
    rw [selectSql, failure?_bind_pure]
    exact failure?_eq_none_iff.mpr ⟨selected, selectOk⟩
  have groupSqlOk := failure?_groupSql_of_selectSql selectSqlOk
  rw [groupSql, failure?_bind_pure] at groupSqlOk
  exact failure?_eq_none_iff.mp groupSqlOk

theorem aligned_of_items {selected grouped : List String}
    (selectOk : query.selectItems schema = .ok selected)
    (groupOk : query.groupItems schema = .ok grouped) :
    query.Aligned schema selected grouped := by
  refine ⟨?_, (length_of_mapM groupOk).symm, ?_, ?_⟩
  · rw [← length_of_mapM selectOk, List.length_append]
  · intro index field fieldAt
    have inSelection :
        (query.group ++ query.accumulator)[index]? = some field := by
      rw [List.getElem?_append_left, fieldAt]
      exact (List.getElem?_eq_some_iff.mp fieldAt).1
    obtain ⟨spec, listed, selectedAt⟩ :=
      item_of_selectItems selectOk inSelection
    obtain ⟨item, itemAt, itemOk⟩ := exists_getElem?_of_mapM groupOk fieldAt
    rw [Schema.expression_of_get? listed] at itemOk
    obtain rfl := Except.ok.inj itemOk
    exact ⟨spec, _, listed, rfl, itemAt, selectedAt⟩
  · intro index field fieldAt
    have inSelection : (query.group ++ query.accumulator)[
        query.group.length + index]? = some field := by
      rw [List.getElem?_append_right (Nat.le_add_right _ _),
        Nat.add_sub_cancel_left, fieldAt]
    obtain ⟨spec, listed, selectedAt⟩ :=
      item_of_selectItems selectOk inSelection
    exact ⟨spec, _, listed, rfl, selectedAt⟩

/-- A statement fails at its selection, at its filter or at its order. -/
theorem failure?_statement_eq_or (query : Query) (schema : Schema)
    (table : String) :
    failure? (query.statement schema table) =
      (failure? (query.selectSql schema)).or
        ((failure? (query.filter schema)).or
          (failure? (query.orderSql schema))) := by
  rw [failure?_statement query schema .empty, checks, Check.firstError?_append,
    Check.firstError?_append, Option.or_assoc, ← failure?_selectSql,
    ← failure?_filter, ← failure?_orderSql]

theorem failure?_plan_eq_or (query : Query) (schema : Schema)
    (relations : Relations) :
    failure? (query.plan schema relations) =
      (failure? (query.selectSql schema)).or
        ((failure? (query.filter schema)).or
          ((failure? (query.orderSql schema)).or
            (failure? (query.models relations)))) := by
  rw [failure?_plan, planChecks, Check.firstError?_append,
    ← failure?_statement query schema relations "", failure?_statement_eq_or,
    ← failure?_models, Option.or_assoc, Option.or_assoc]

/-- A query that has a selection has a grouping that stands in line with it.
Hence the grouping has no part in the failure of a statement or a plan. -/
theorem selection_aligned_with_grouping (query : Query) (schema : Schema) :
    (∀ selected, query.selectItems schema = .ok selected →
        ∃ grouped, query.groupItems schema = .ok grouped ∧
          query.Aligned schema selected grouped) ∧
      (∀ table, failure? (query.statement schema table) =
        (failure? (query.selectSql schema)).or
          ((failure? (query.filter schema)).or
            (failure? (query.orderSql schema)))) ∧
      ∀ relations, failure? (query.plan schema relations) =
        (failure? (query.selectSql schema)).or
          ((failure? (query.filter schema)).or
            ((failure? (query.orderSql schema)).or
              (failure? (query.models relations)))) := by
  refine ⟨?_, query.failure?_statement_eq_or schema,
    query.failure?_plan_eq_or schema⟩
  intro selected selectOk
  obtain ⟨grouped, groupOk⟩ := exists_groupItems_of_selectItems selectOk
  exact ⟨grouped, groupOk, aligned_of_items selectOk groupOk⟩

/-- The fields of parcels: one that stands for itself, one with an expression, one
with an alias, and one whose alias repeats its expression. -/
def parcelSchema : Schema :=
  .ofList
    [("kind", .unset), ("city", ⟨some "c.name", none, none⟩),
      ("route", ⟨some "", some "way", none⟩),
      ("weight", ⟨some "SUM(p.w)", some "SUM(p.w)", some .integer⟩)]

/-- Parcels by kind, with one field that is grouped by twice. -/
def parcelQuery : Query :=
  { everything with
    group := ["kind", "city", "kind", "route"]
    accumulator := ["weight"] }

theorem selection_aligned_with_grouping_of_parcelQuery :
    ∃ selected grouped,
      parcelQuery.selectItems parcelSchema = .ok selected ∧
        parcelQuery.groupItems parcelSchema = .ok grouped ∧
        selected.length = 5 ∧ grouped.length = 4 ∧
        (grouped[1]? = some "c.name" ∧
          selected[1]? = some "c.name AS city") ∧
        (grouped[2]? = some "kind" ∧ selected[2]? = some "kind") ∧
        (grouped[3]? = some "route" ∧ selected[3]? = some "route AS way") ∧
        selected[4]? = some "SUM(p.w)" := by
  obtain ⟨grouped, groupOk, aligned⟩ :=
    (selection_aligned_with_grouping parcelQuery parcelSchema).1 _ rfl
  refine ⟨_, grouped, rfl, groupOk, aligned.length_selected,
    aligned.length_grouped, ?_, ?_, ?_, ?_⟩
  · obtain ⟨_, _, listed, rfl, groupedAt, selectedAt⟩ :=
      aligned.ofGroup 1 "city" rfl
    obtain rfl := Option.some.inj listed
    exact ⟨groupedAt, selectedAt⟩
  · obtain ⟨_, _, listed, rfl, groupedAt, selectedAt⟩ :=
      aligned.ofGroup 2 "kind" rfl
    obtain rfl := Option.some.inj listed
    exact ⟨groupedAt, selectedAt⟩
  · obtain ⟨_, _, listed, rfl, groupedAt, selectedAt⟩ :=
      aligned.ofGroup 3 "route" rfl
    obtain rfl := Option.some.inj listed
    exact ⟨groupedAt, selectedAt⟩
  · obtain ⟨_, _, listed, rfl, selectedAt⟩ :=
      aligned.ofAccumulator 0 "weight" rfl
    obtain rfl := Option.some.inj listed
    exact selectedAt

end Query

end FilterSql
