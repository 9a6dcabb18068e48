import FilterSql.Proofs.Compilation
import FilterSql.Proofs.ConditionKeys

/-!
# The checks of a compilation

Compilation asks of a query that the schema lists its fields, that its operators
are known, that its conditions have values, and that the converters accept them.
A plan asks in addition for the related records.  The checks stand in one order,
and compilation fails with the first one that fails.

The group is rendered after the filter, but its fields have been looked up for
the selection before, so it adds no check of its own.
-/

namespace FilterSql

open Traversal

namespace Schema

/-- Why the converter of a field refuses a text.  A field that is not listed or
has no converter refuses nothing. -/
def refusal? (schema : Schema) (field raw : String) : Option ConversionError := do
  let spec ← schema.get? field
  let converter ← spec.converter
  failure? (converter.convert raw)

end Schema

/-- Something that compilation asks of a query. -/
inductive Check where
  /-- The schema lists the field. -/
  | fieldListed (field : String)
  /-- The operator is in the vocabulary. -/
  | operatorKnown (operator : String)
  /-- A condition on the field has a value. -/
  | valuesGiven (field : String) (values : List String)
  /-- The converter of the field accepts the value. -/
  | valueAccepted (field raw : String)
  /-- The related records can be loaded. -/
  | relationListed (relation : String)

namespace Check

/-- The error that a check raises, if it fails. -/
def error? (schema : Schema) (relations : Relations) :
    Check → Option CompileError
  | fieldListed field =>
      if (schema.get? field).isNone then some (.unknownField field) else none
  | operatorKnown operator =>
      if operator ∈ Operator.vocabulary then none
      else some (.unknownOperator operator)
  | valuesGiven field values =>
      if values.isEmpty then some (.noValues field) else none
  | valueAccepted field raw => (schema.refusal? field raw).map .conversion
  | relationListed relation =>
      if relations.lacks relation then some (.unknownRelation relation) else none

/-- The error of the first of some checks that fails. -/
def firstError? (schema : Schema) (relations : Relations)
    (checks : List Check) : Option CompileError :=
  checks.findSome? (error? schema relations)

end Check

namespace Condition

def checks (condition : Condition) : List Check :=
  [.fieldListed condition.field, .operatorKnown condition.operator,
      .valuesGiven condition.field condition.values] ++
    condition.values.map (.valueAccepted condition.field)

end Condition

namespace Query

/-- The checks of a statement, in order. -/
def checks (query : Query) : List Check :=
  (query.group ++ query.accumulator).map .fieldListed ++
    query.conditions.flatMap Condition.checks ++
    query.sort.map fun entry => .fieldListed entry.field

/-- The checks of a plan, in order. -/
def planChecks (query : Query) : List Check :=
  query.checks ++ query.relations.map .relationListed

end Query

namespace Check

variable {schema : Schema} {relations : Relations} {error : CompileError}

theorem firstError?_cons (check : Check) (checks : List Check) :
    firstError? schema relations (check :: checks) =
      (check.error? schema relations).or
        (firstError? schema relations checks) := by
  rw [firstError?, List.findSome?_cons]
  cases check.error? schema relations <;> rfl

theorem firstError?_append (first second : List Check) :
    firstError? schema relations (first ++ second) =
      (firstError? schema relations first).or
        (firstError? schema relations second) :=
  List.findSome?_append

theorem firstError?_eq_none_iff {checks : List Check} :
    firstError? schema relations checks = none ↔
      ∀ check ∈ checks, check.error? schema relations = none :=
  List.findSome?_eq_none_iff

theorem exists_mem_of_firstError? {checks : List Check}
    (first : firstError? schema relations checks = some error) :
    ∃ check ∈ checks, check.error? schema relations = some error :=
  List.exists_of_findSome?_eq_some first

/-- A traversal with one check for every item fails with the first of them. -/
theorem failure?_mapM_eq {α β : Type} {step : α → Except CompileError β}
    (check : α → Check)
    (steps : ∀ item,
      failure? (step item) = (check item).error? schema relations)
    (items : List α) :
    failure? (items.mapM step) =
      firstError? schema relations (items.map check) := by
  rw [failure?_mapM, firstError?, List.findSome?_map]
  simp only [steps]
  rfl

theorem error?_fieldListed_eq_some_iff {field : String} :
    (fieldListed field).error? schema relations = some error ↔
      schema.get? field = none ∧ error = .unknownField field := by
  simp [error?, @eq_comm _ error]

theorem error?_relationListed_eq_some_iff {relation : String} :
    (relationListed relation).error? schema relations = some error ↔
      relations.get? relation = none ∧ error = .unknownRelation relation := by
  simp [error?, Relations.lacks, @eq_comm _ error]

end Check

namespace Schema

theorem failure?_column (schema : Schema) (relations : Relations)
    (field : String) :
    failure? (schema.column field) =
      (Check.fieldListed field).error? schema relations := by
  cases listed : schema.get? field with
  | none => simp [column, Check.error?, listed, failure?]
  | some => simp [column, Check.error?, listed, failure?]

theorem failure?_read {schema : Schema} (relations : Relations)
    {field : String} {column : Column}
    (columnOk : schema.column field = .ok column) (raw : String) :
    failure? (column.read raw) =
      (Check.valueAccepted field raw).error? schema relations := by
  rw [Column.read, failure?_mapError, Check.error?]
  congr 1
  cases listed : schema.get? field with
  | none => simp [Schema.column, listed] at columnOk
  | some spec =>
      obtain rfl : spec.resolve field = column := by
        simpa [Schema.column, listed] using columnOk
      cases converterEq : spec.converter with
      | none =>
          simp [Column.convert, refusal?, listed, FieldSpec.resolve, converterEq,
            failure?]
      | some converter =>
          simp [Column.convert, refusal?, listed, FieldSpec.resolve, converterEq]

theorem failure?_mapM_render {α : Type} (schema : Schema)
    (relations : Relations) (fieldOf : α → String)
    (text : α → Column → String) (items : List α) :
    failure? (items.mapM (schema.render fieldOf text)) =
      Check.firstError? schema relations
        (items.map fun item => .fieldListed (fieldOf item)) := by
  refine Check.failure?_mapM_eq _ (fun item => ?_) items
  rw [render, failure?_bind_pure, failure?_column schema relations]

end Schema

namespace Condition

variable {schema : Schema} {relations : Relations} {condition : Condition}

theorem failure?_resolvedOperator :
    failure? condition.resolvedOperator =
      (Check.operatorKnown condition.operator).error? schema relations := by
  simp only [resolvedOperator, Check.error?, ← Operator.isSome_ofName?_iff]
  cases Operator.ofName? condition.operator <;> rfl

theorem failure?_convertedValues {column : Column}
    (columnOk : schema.column condition.field = .ok column) :
    failure? (condition.convertedValues column) =
      Check.firstError? schema relations
        (.valuesGiven condition.field condition.values ::
          condition.values.map (.valueAccepted condition.field)) := by
  have read := schema.failure?_read relations columnOk
  rw [failure?_convertedValues_eq, Check.failure?_mapM_eq _ read,
    Check.firstError?_cons]
  cases condition.values <;> rfl

/-- A condition fails with the first of its checks that fails. -/
theorem failure?_fragmentIn (schema : Schema) (relations : Relations)
    (condition : Condition) :
    failure? (condition.fragmentIn schema) =
      Check.firstError? schema relations condition.checks := by
  rw [checks, List.cons_append, Check.firstError?_cons,
    ← schema.failure?_column relations]
  -- The values are checked against the column that the first check has found.
  refine failure?_bind fun column columnOk => ?_
  rw [List.cons_append, Check.firstError?_cons, ← failure?_resolvedOperator]
  refine failure?_bind fun operator _ => ?_
  exact (failure?_bind_pure _ _).trans (failure?_convertedValues columnOk)

end Condition

namespace Query

theorem failure?_selectSql (query : Query) (schema : Schema)
    (relations : Relations) :
    failure? (query.selectSql schema) = Check.firstError? schema relations
      ((query.group ++ query.accumulator).map .fieldListed) := by
  rw [selectSql, failure?_bind_pure, selectItems_eq]
  exact schema.failure?_mapM_render relations id _ _

theorem failure?_filter (query : Query) (schema : Schema)
    (relations : Relations) :
    failure? (query.filter schema) = Check.firstError? schema relations
      (query.conditions.flatMap Condition.checks) := by
  rw [filter, Condition.filter, failure?_bind_pure, Condition.fragments,
    failure?_mapM, Check.firstError?, findSome?_flatMap]
  simp only [Condition.failure?_fragmentIn schema relations]
  rfl

theorem failure?_groupSql (query : Query) (schema : Schema)
    (relations : Relations) :
    failure? (query.groupSql schema) =
      Check.firstError? schema relations (query.group.map .fieldListed) := by
  rw [groupSql, failure?_bind_pure, groupItems_eq]
  exact schema.failure?_mapM_render relations id _ _

theorem failure?_orderSql (query : Query) (schema : Schema)
    (relations : Relations) :
    failure? (query.orderSql schema) = Check.firstError? schema relations
      (query.sort.map fun entry => .fieldListed entry.field) := by
  rw [orderSql, failure?_bind_pure, orderItems_eq]
  exact schema.failure?_mapM_render relations SortEntry.field _ _

theorem failure?_models (query : Query) (schema : Schema)
    (relations : Relations) :
    failure? (query.models relations) = Check.firstError? schema relations
      (query.relations.map .relationListed) :=
  Check.failure?_mapM_eq _ (fun _ => Relations.failure?_model) query.relations

/-- The group is never the first to fail: the selection looks up its fields
before. -/
theorem failure?_groupSql_of_selectSql {query : Query} {schema : Schema}
    (selectOk : failure? (query.selectSql schema) = none) :
    failure? (query.groupSql schema) = none := by
  rw [failure?_selectSql query schema .empty, List.map_append,
    Check.firstError?_append, Option.or_eq_none_iff] at selectOk
  rw [failure?_groupSql query schema .empty, selectOk.1]

/-- The parts of a query fail with the first of its checks that fails. -/
theorem failure?_parts (query : Query) (schema : Schema)
    (relations : Relations) :
    failure? (query.parts schema) =
      Check.firstError? schema relations query.checks := by
  have inOrder : failure? (query.parts schema) =
      (failure? (query.selectSql schema)).or
        ((failure? (query.filter schema)).or
          ((failure? (query.groupSql schema)).or
            (failure? (query.orderSql schema)))) := by
    refine failure?_bind fun _ _ => ?_
    refine failure?_bind fun _ _ => ?_
    refine failure?_bind fun _ _ => ?_
    exact failure?_bind_pure _ _
  rw [inOrder, checks, Check.firstError?_append, Check.firstError?_append,
    ← failure?_selectSql, ← failure?_filter, ← failure?_orderSql]
  -- The group has a place in this order, but never decides it.
  cases selectFailure : failure? (query.selectSql schema) with
  | some => rfl
  | none => simp [failure?_groupSql_of_selectSql selectFailure]

theorem failure?_statement (query : Query) (schema : Schema)
    (relations : Relations) (table : String) :
    failure? (query.statement schema table) =
      Check.firstError? schema relations query.checks := by
  rw [statement_eq, failure?_map, failure?_parts query schema relations]

theorem failure?_plan (query : Query) (schema : Schema)
    (relations : Relations) :
    failure? (query.plan schema relations) =
      Check.firstError? schema relations query.planChecks := by
  rw [plan_eq, planChecks, Check.firstError?_append, ← failure?_parts,
    ← failure?_models]
  refine failure?_bind fun compiled _ => ?_
  exact failure?_bind_pure _ _

/-- Compilation succeeds exactly when every check passes, and otherwise fails
with the error of the first check that fails. -/
theorem compiles_iff_checks (query : Query) (schema : Schema)
    (relations : Relations) (table : String) :
    ((∃ statement, query.statement schema table = .ok statement) ↔
        ∀ check ∈ query.checks, check.error? schema relations = none) ∧
      (∀ error, query.statement schema table = .error error ↔
        Check.firstError? schema relations query.checks = some error) ∧
      ((∃ plan, query.plan schema relations = .ok plan) ↔
        ∀ check ∈ query.planChecks, check.error? schema relations = none) ∧
      (∀ error, query.plan schema relations = .error error ↔
        Check.firstError? schema relations query.planChecks = some error) := by
  refine ⟨?_, ?_, ?_, ?_⟩
  · rw [← failure?_eq_none_iff, failure?_statement query schema relations,
      Check.firstError?_eq_none_iff]
  · intro error
    rw [← failure?_eq_some_iff, failure?_statement query schema relations]
  · rw [← failure?_eq_none_iff, failure?_plan, Check.firstError?_eq_none_iff]
  · intro error
    rw [← failure?_eq_some_iff, failure?_plan]

/-- A value is refused even where the operator asks for none, and before anything
is asked of the next condition. -/
example :
    let schema := Schema.ofList [("age", ⟨none, none, some .integer⟩)]
    let query : Query :=
      ⟨[⟨"age", "isnull", ["7", "x"]⟩, ⟨"age", "like", []⟩], [], [], [],
        [⟨"name", false⟩], 0, 0⟩
    query.statement schema "pets" =
      .error (.conversion (.integer "x" .invalidDigit)) :=
  rfl

end Query

end FilterSql
