import FilterSql.Proofs.ConditionExpansion
import FilterSql.Proofs.FragmentExpansion

/-!
# Expanding a compiled statement

When the table, the expressions and the aliases are neutral, every part of a
statement but its filter is neutral too.  A compiled statement therefore has as
many placeholders as arguments, and expands to the values that its conditions
bind, in order.
-/

namespace FilterSql

open Placeholders Traversal

namespace Schema

variable {schema : Schema}

/-- A column list is neutral when its items are. -/
theorem isNeutral_commaSeparated {α : Type} {fieldOf : α → String}
    {text : α → Column → String} {items : List α} {texts : List String}
    (itemsNeutral : ∀ item ∈ items, ∀ column,
      schema.column (fieldOf item) = .ok column → IsNeutral (text item column))
    (rendered : items.mapM (schema.render fieldOf text) = .ok texts) :
    IsNeutral (Query.commaSeparated texts) := by
  refine IsNeutral.intercalate (by decide) (forall_of_mapM ?_ rendered)
  intro item itemMem result resultOk
  obtain ⟨column, columnOk, rfl⟩ := render_eq_ok_iff.mp resultOk
  exact itemsNeutral item itemMem column columnOk

end Schema

namespace SortEntry

theorem isNeutral_direction (entry : SortEntry) : IsNeutral entry.direction := by
  unfold direction
  split <;> decide

end SortEntry

namespace Query

variable {query : Query} {schema : Schema}

theorem isExpandable_of_fragments
    (fieldsNeutral : ∀ field ∈ query.fields, ∀ column,
      schema.column field = .ok column → column.IsNeutral)
    (noLists : ∀ condition ∈ query.conditions, ∀ column,
      schema.column condition.field = .ok column → column.SuppliesNoList)
    {fragments : List Fragment}
    (fragmentsOk : Condition.fragments schema query.conditions = .ok fragments) :
    ∀ fragment ∈ fragments, fragment.IsExpandable := by
  refine forall_of_mapM ?_ fragmentsOk
  intro condition conditionMem fragment fragmentOk
  exact Condition.isExpandable_of_fragmentIn
    (fieldsNeutral _ (field_mem_fields_of_condition conditionMem))
    (noLists condition conditionMem) fragmentOk

/-- A statement has as many placeholders as arguments. -/
theorem hasPlaceholders_parts {table : String} {parts : SelectParts}
    {arguments : List Value} (tableNeutral : IsNeutral table)
    (fieldsNeutral : ∀ field ∈ query.fields, ∀ column,
      schema.column field = .ok column → column.IsNeutral)
    (noLists : ∀ condition ∈ query.conditions, ∀ column,
      schema.column condition.field = .ok column → column.SuppliesNoList)
    (partsOk : query.parts schema = .ok (parts, arguments)) :
    HasPlaceholders (parts.statement table) arguments.length := by
  obtain ⟨select, fragments, group, order, selectOk, fragmentsOk, groupOk,
    orderOk, rfl, rfl⟩ := parts_eq_ok_iff.mp partsOk
  have conditionHas := Fragment.hasPlaceholders_conjunction
    (isExpandable_of_fragments fieldsNeutral noLists fragmentsOk)
  rw [selectItems_eq] at selectOk
  rw [groupItems_eq] at groupOk
  rw [orderItems_eq] at orderOk
  refine SelectParts.hasPlaceholders_statement tableNeutral ?_ conditionHas ?_ ?_
  · refine Schema.isNeutral_commaSeparated ?_ selectOk
    intro field fieldMem column columnOk
    exact (fieldsNeutral field (mem_fields_of_select fieldMem) column
      columnOk).selection
  · refine Schema.isNeutral_commaSeparated ?_ groupOk
    intro field fieldMem column columnOk
    exact (fieldsNeutral field (mem_fields_of_group fieldMem) column columnOk).1
  · refine Schema.isNeutral_commaSeparated ?_ orderOk
    intro entry entryMem column columnOk
    have expressionNeutral := (fieldsNeutral _ (field_mem_fields_of_sort entryMem)
      column columnOk).1
    exact (expressionNeutral.append_neutral (by decide)).append_neutral
      entry.isNeutral_direction

theorem bound_of_fragments
    (noLists : ∀ condition ∈ query.conditions, ∀ column,
      schema.column condition.field = .ok column → column.SuppliesNoList)
    {fragments : List Fragment}
    (fragmentsOk : Condition.fragments schema query.conditions = .ok fragments) :
    query.conditions.mapM (Condition.bound schema) =
      .ok (fragments.map Fragment.replacements) := by
  refine map_of_mapM ?_ fragmentsOk
  intro condition conditionMem fragment fragmentOk
  exact Condition.bound_of_fragmentIn (noLists condition conditionMem)
    fragmentOk

/-- A statement whose table, expressions and aliases are neutral has as many
placeholders as arguments, and expands to the values that its conditions bind. -/
theorem expand_statement {query : Query} {schema : Schema} {table : String}
    {statement : BoundSql} (tableNeutral : IsNeutral table)
    (fieldsNeutral : ∀ field ∈ query.fields, ∀ column,
      schema.column field = .ok column → column.IsNeutral)
    (noLists : ∀ condition ∈ query.conditions, ∀ column,
      schema.column condition.field = .ok column → column.SuppliesNoList)
    (compiled : query.statement schema table = .ok statement) :
    ∃ expanded values,
      statement.expand = .ok expanded ∧
        query.conditions.mapM (Condition.bound schema) = .ok values ∧
        expanded.arguments = values.flatten ∧
        count statement.sql.toList = statement.arguments.length ∧
        count expanded.sql.toList = expanded.arguments.length := by
  obtain ⟨parts, arguments, partsOk, rfl⟩ := statement_eq_ok_iff.mp compiled
  have statementHas :=
    hasPlaceholders_parts tableNeutral fieldsNeutral noLists partsOk
  obtain ⟨_, fragments, _, _, _, fragmentsOk, _, _, _, argumentsEq⟩ :=
    parts_eq_ok_iff.mp partsOk
  have nonempty : ∀ argument ∈ arguments, replacements argument ≠ [] := by
    rw [argumentsEq]
    exact Fragment.replacements_ne_nil_of_mem_conjunction
      (isExpandable_of_fragments fieldsNeutral noLists fragmentsOk)
  obtain ⟨expanded, expandedOk, expandedArguments, expandedCount⟩ :=
    BoundSql.expand_eq_ok ⟨parts.statement table, arguments⟩ statementHas.2
      nonempty
  refine ⟨expanded, fragments.map Fragment.replacements, expandedOk, ?_, ?_,
    statementHas.2, expandedCount⟩
  · exact bound_of_fragments noLists fragmentsOk
  · rw [expandedArguments, argumentsEq, ← List.flatMap_def]
    exact Fragment.flatMap_replacements fragments

/-- Two fields, one with a quoted mark in its expression and its alias and a
supplied converter. -/
def markedSchema : Schema :=
  .ofList
    [("state", ⟨some "COALESCE(state, '?')", some "'state?'",
      some (.custom 0 fun raw => .ok (.boolean (raw == "open")))⟩),
      ("note", .unset)]

/-- A query with every kind of argument, and marks and quotes in its values. -/
def markedQuery : Query :=
  ⟨[⟨"state", "in", ["open", "?"]⟩, ⟨"note", "contain", ["it's?", "?"]⟩,
      ⟨"state", "isnull", ["1"]⟩, ⟨"note", "gt", ["a", "b"]⟩],
    [], ["state"], [], [⟨"note", true⟩], -5, 0⟩

theorem expand_statement_of_markedQuery :
    ∃ statement expanded,
      markedQuery.statement markedSchema "logs" = .ok statement ∧
        statement.expand = .ok expanded ∧
        expanded.arguments =
          [.boolean true, .boolean false, .text "%it's?%", .text "a"] ∧
        count statement.sql.toList = 3 ∧ count expanded.sql.toList = 4 := by
  have columnMem {field : String} {column : Column}
      (fieldMem : field ∈ ["state", "note"])
      (columnOk : markedSchema.column field = .ok column) :
      column.IsNeutral ∧ column.SuppliesNoList := by
    rcases List.mem_pair.mp fieldMem with rfl | rfl
    · obtain rfl := Except.ok.inj columnOk
      refine ⟨⟨by decide, by decide⟩, ?_⟩
      rintro _ _ converterEq _ _ givesList
      cases converterEq
      cases givesList
    · obtain rfl := Except.ok.inj columnOk
      refine ⟨⟨by decide, by decide⟩, ?_⟩
      rintro _ _ converterEq
      cases converterEq
  have fieldsMem : ∀ field ∈ markedQuery.fields, field ∈ ["state", "note"] := by
    decide
  have neutral : ∀ field ∈ markedQuery.fields, ∀ column,
      markedSchema.column field = .ok column → column.IsNeutral :=
    fun field fieldMem _ columnOk =>
      (columnMem (fieldsMem field fieldMem) columnOk).1
  have noLists : ∀ condition ∈ markedQuery.conditions, ∀ column,
      markedSchema.column condition.field = .ok column →
        column.SuppliesNoList :=
    fun _ conditionMem _ columnOk => (columnMem
      (fieldsMem _ (field_mem_fields_of_condition conditionMem)) columnOk).2
  obtain ⟨expanded, values, expandedOk, valuesOk, argumentsEq, countEq,
    expandedCountEq⟩ :=
    expand_statement (by decide : IsNeutral "logs") neutral noLists rfl
  obtain rfl := Except.ok.inj valuesOk
  refine ⟨_, expanded, rfl, expandedOk, argumentsEq, countEq, ?_⟩
  rw [expandedCountEq, argumentsEq]
  rfl

end Query

end FilterSql
