import FilterSql.Proofs.CompilationChecks
import FilterSql.Proofs.QueryRoundTrip

/-!
# Compiling a query that was read

The conditions of a query that was read from parameters have known operators and
values.  Compilation checks both again, but these checks never fail: such a query
is refused only for a name that is not listed or for a value that a converter
refuses.  The list of a membership condition is never empty.
-/

namespace FilterSql

open Traversal

namespace Condition

/-- Whether a condition asks for membership in its values, or for the lack of
it. -/
def IsMembership (condition : Condition) : Prop :=
  condition.operator = Operator.among.name ∨
    condition.operator = Operator.notAmong.name

/-- The argument of a membership condition is a list that is not empty. -/
theorem argument_of_isMembership {condition : Condition} {schema : Schema}
    {fragment : Fragment} (member : condition.IsMembership)
    (compiled : condition.fragmentIn schema = .ok fragment) :
    ∃ items, fragment.argument = some (.list items) ∧ items ≠ [] := by
  obtain ⟨column, operator, raw, _, first, others, _, operatorOk, _, _, _, rfl⟩ :=
    fragmentIn_eq_ok_iff.mp compiled
  have nameEq := Operator.ofName?_eq_some_iff.mp operatorOk
  rcases member with among | notAmong
  · obtain rfl := Operator.name_injective (nameEq.trans among)
    exact ⟨first :: others, rfl, List.cons_ne_nil _ _⟩
  · obtain rfl := Operator.name_injective (nameEq.trans notAmong)
    exact ⟨first :: others, rfl, List.cons_ne_nil _ _⟩

end Condition

namespace CompileError

/-- Whether an error names a field of the query that the schema does not list, or
is that of a converter that refuses a value of the query. -/
def IsFieldOrValue (schema : Schema) (query : Query) (error : CompileError) :
    Prop :=
  (∃ field ∈ query.fields,
      schema.get? field = none ∧ error = unknownField field) ∨
    ∃ condition ∈ query.conditions, ∃ raw ∈ condition.values, ∃ cause,
      schema.refusal? condition.field raw = some cause ∧
        error = conversion cause

end CompileError

namespace Query

variable {query : Query} {schema : Schema} {relations : Relations}
  {error : CompileError}

theorem isFieldOrValue_of_conditionChecks (expressible : query.IsExpressible)
    {condition : Condition} (conditionMem : condition ∈ query.conditions)
    {check : Check} (checkMem : check ∈ condition.checks)
    (failed : check.error? schema relations = some error) :
    error.IsFieldOrValue schema query := by
  simp only [Condition.checks, List.mem_append, List.mem_cons, List.mem_map,
    List.not_mem_nil, or_false] at checkMem
  rcases checkMem with (rfl | rfl | rfl) | ⟨raw, rawMem, rfl⟩
  · exact .inl ⟨condition.field, field_mem_fields_of_condition conditionMem,
      Check.error?_fieldListed_eq_some_iff.mp failed⟩
  · have known := expressible.operatorsKnown condition conditionMem
    simp [Check.error?, known] at failed
  · have nonempty := expressible.valuesNonempty condition conditionMem
    simp [Check.error?, nonempty] at failed
  · obtain ⟨cause, refused, rfl⟩ := Option.map_eq_some_iff.mp failed
    exact .inr ⟨condition, conditionMem, raw, rawMem, cause, refused, rfl⟩

theorem isFieldOrValue_of_checks (expressible : query.IsExpressible)
    (failed : Check.firstError? schema relations query.checks = some error) :
    error.IsFieldOrValue schema query := by
  obtain ⟨check, checkMem, checkFailed⟩ := Check.exists_mem_of_firstError? failed
  simp only [checks, List.mem_append, List.mem_map, List.mem_flatMap]
    at checkMem
  rcases checkMem with (⟨field, fieldMem, rfl⟩ |
    ⟨condition, conditionMem, checkMem⟩) | ⟨entry, entryMem, rfl⟩
  · exact .inl ⟨field, mem_fields_of_select (List.mem_append.mpr fieldMem),
      Check.error?_fieldListed_eq_some_iff.mp checkFailed⟩
  · exact isFieldOrValue_of_conditionChecks expressible conditionMem checkMem
      checkFailed
  · exact .inl ⟨entry.field, field_mem_fields_of_sort entryMem,
      Check.error?_fieldListed_eq_some_iff.mp checkFailed⟩

/-- A query that was read fails to compile only with a field that is not listed,
a value that is refused or, for a plan, a relation that is not listed; and each
of its membership conditions binds a list that is not empty. -/
theorem compile_of_ofParameters {parameters : Parameters} {query : Query}
    (read : ofParameters parameters = .ok query) (schema : Schema)
    (relations : Relations) (table : String) :
    (∀ error, query.statement schema table = .error error →
        error.IsFieldOrValue schema query) ∧
      (∀ error, query.plan schema relations = .error error →
        error.IsFieldOrValue schema query ∨
          ∃ relation ∈ query.relations,
            relations.get? relation = none ∧
              error = .unknownRelation relation) ∧
      ∀ statement, query.statement schema table = .ok statement →
        ∃ fragments,
          Condition.fragments schema query.conditions = .ok fragments ∧
            statement.arguments = fragments.filterMap Fragment.argument ∧
            List.Forall₂ (fun condition fragment =>
                Condition.IsMembership condition → ∃ items,
                  Fragment.argument fragment = some (.list items) ∧ items ≠ [])
              query.conditions fragments := by
  have expressible : query.IsExpressible := isExpressible_of_ofParameters read
  refine ⟨?_, ?_, ?_⟩
  · intro error failed
    rw [← failure?_eq_some_iff, failure?_statement query schema relations]
      at failed
    exact isFieldOrValue_of_checks expressible failed
  · intro error failed
    rw [← failure?_eq_some_iff, failure?_plan, planChecks,
      Check.firstError?_append, Option.or_eq_some_iff] at failed
    rcases failed with checkFailed | ⟨_, relationFailed⟩
    · exact .inl (isFieldOrValue_of_checks expressible checkFailed)
    · obtain ⟨check, checkMem, missing⟩ :=
        Check.exists_mem_of_firstError? relationFailed
      obtain ⟨relation, relationMem, rfl⟩ := List.mem_map.mp checkMem
      exact .inr ⟨relation, relationMem,
        Check.error?_relationListed_eq_some_iff.mp missing⟩
  · intro statement compiled
    obtain ⟨_, _, partsOk, rfl⟩ := statement_eq_ok_iff.mp compiled
    obtain ⟨_, fragments, _, _, _, fragmentsOk, _, _, _, rfl⟩ :=
      parts_eq_ok_iff.mp partsOk
    refine ⟨fragments, fragmentsOk, rfl, ?_⟩
    refine (mapM_eq_ok_iff.mp fragmentsOk).imp ?_
    intro condition fragment fragmentOk member
    exact condition.argument_of_isMembership member fragmentOk

/-- Parameters that describe one condition, beside an empty list, an unknown
operator and a relation. -/
def ticketParameters : Parameters :=
  .ofLists
    [("state_in", ["1", "x"]), ("age_gt", []), ("note_like", ["y"]),
      ("with", ["owner"])]

def ticketSchema (converter : Converter) : Schema :=
  .ofList [("state", ⟨none, none, some converter⟩)]

theorem compile_of_ofParameters_of_ticketParameters :
    ∃ query, ofParameters ticketParameters = .ok query ∧
      (∃ error,
        query.statement (ticketSchema .integer) "tickets" = .error error ∧
          error.IsFieldOrValue (ticketSchema .integer) query) ∧
      ∃ statement fragments,
        query.statement (ticketSchema .text) "tickets" = .ok statement ∧
          statement.arguments = fragments.filterMap Fragment.argument ∧
          List.Forall₂ (fun condition fragment =>
              Condition.IsMembership condition → ∃ items,
                Fragment.argument fragment = some (.list items) ∧ items ≠ [])
            query.conditions fragments := by
  have read : ofParameters ticketParameters =
      .ok ⟨[⟨"state", "in", ["1", "x"]⟩], ["owner"], [], [], [], 0, 0⟩ := by
    rfl
  obtain ⟨refused, _, _⟩ :=
    compile_of_ofParameters read (ticketSchema .integer) .empty "tickets"
  obtain ⟨_, _, compiled⟩ :=
    compile_of_ofParameters read (ticketSchema .text) .empty "tickets"
  obtain ⟨fragments, _, argumentsEq, lists⟩ := compiled _ rfl
  exact ⟨_, read, ⟨_, rfl, refused _ rfl⟩, _, fragments, rfl, argumentsEq, lists⟩

end Query

end FilterSql
