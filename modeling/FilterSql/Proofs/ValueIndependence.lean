import FilterSql.Proofs.Compilation

/-!
# Values stay out of the SQL

The text of a statement depends on the shape of the query and on the expressions
and aliases of its fields.  Values and converters decide whether compilation
succeeds and what the arguments are, but neither the text nor the number of
arguments.
-/

namespace FilterSql

open Traversal

namespace Column

/-- Whether two columns have one expression and one alias; their converters may
differ. -/
def SameNames (first second : Column) : Prop :=
  first.expression = second.expression ∧ first.aliasName = second.aliasName

theorem SameNames.selection_eq {first second : Column}
    (names : first.SameNames second) : first.selection = second.selection := by
  unfold selection
  rw [names.1, names.2]

theorem SameNames.fragment_sql_eq {first second : Column}
    (names : first.SameNames second) (operator : Operator)
    (firstRaw secondRaw : String) (firstValue secondValue : Value)
    (firstOthers secondOthers : List Value) :
    (first.fragment firstRaw firstValue firstOthers operator).sql =
      (second.fragment secondRaw secondValue secondOthers operator).sql := by
  cases operator <;> simp [fragment, compared, matched, tested, names.1]

theorem isSome_argument_fragment (column : Column) (raw : String)
    (first : Value) (others : List Value) (operator : Operator) :
    (column.fragment raw first others operator).argument.isSome =
      decide (operator ≠ .isNull) := by
  cases operator <;> rfl

end Column

namespace Schema

/-- Whether a field has one expression and one alias in two schemas that both
list it. -/
def SameNames (first second : Schema) (field : String) : Prop :=
  ∀ firstColumn secondColumn, first.column field = .ok firstColumn →
    second.column field = .ok secondColumn →
      firstColumn.SameNames secondColumn

/-- Texts made of expressions and aliases are the same in both schemas. -/
theorem eq_of_render {α : Type} {first second : Schema} {fieldOf : α → String}
    {text : α → Column → String} {items : List α}
    {firstTexts secondTexts : List String}
    (names : ∀ item ∈ items, first.SameNames second (fieldOf item))
    (respects : ∀ item firstColumn secondColumn,
      Column.SameNames firstColumn secondColumn →
        text item firstColumn = text item secondColumn)
    (firstOk : items.mapM (first.render fieldOf text) = .ok firstTexts)
    (secondOk : items.mapM (second.render fieldOf text) = .ok secondTexts) :
    firstTexts = secondTexts := by
  refine eq_of_mapM ?_ firstOk secondOk
  intro item itemMem firstText secondText firstTextOk secondTextOk
  obtain ⟨firstColumn, firstColumnOk, rfl⟩ := render_eq_ok_iff.mp firstTextOk
  obtain ⟨secondColumn, secondColumnOk, rfl⟩ :=
    render_eq_ok_iff.mp secondTextOk
  exact respects item _ _
    (names item itemMem _ _ firstColumnOk secondColumnOk)

end Schema

namespace Fragment

/-- Whether two fragments have one text and both or neither have an argument. -/
def SameText (first second : Fragment) : Prop :=
  first.sql = second.sql ∧ first.argument.isSome = second.argument.isSome

theorem conjunction_of_sameText {first second : List Fragment}
    (texts : List.Forall₂ SameText first second) :
    (conjunction first).sql = (conjunction second).sql ∧
      (conjunction first).arguments.length =
        (conjunction second).arguments.length := by
  constructor
  · have sqlEq : first.map Fragment.sql = second.map Fragment.sql :=
      map_eq_map_iff.mpr (texts.imp fun _ _ sameText => sameText.1)
    unfold conjunction
    rw [sqlEq]
  · have countEq :
        first.map (fun fragment => fragment.argument.toList.length) =
          second.map fun fragment => fragment.argument.toList.length := by
      refine map_eq_map_iff.mpr (texts.imp fun _ _ sameText => ?_)
      rw [Option.length_toList, Option.length_toList, sameText.2]
    rw [length_arguments_conjunction, length_arguments_conjunction, countEq]

end Fragment

namespace Condition

/-- The field and the operator of a condition, without its values. -/
def signature (condition : Condition) : String × String :=
  (condition.field, condition.operator)

theorem sameText_of_signature_eq {first second : Condition}
    {firstSchema secondSchema : Schema} {firstFragment secondFragment : Fragment}
    (signatureEq : first.signature = second.signature)
    (names : firstSchema.SameNames secondSchema first.field)
    (firstOk : first.fragmentIn firstSchema = .ok firstFragment)
    (secondOk : second.fragmentIn secondSchema = .ok secondFragment) :
    firstFragment.SameText secondFragment := by
  obtain ⟨fieldEq, operatorEq⟩ := Prod.mk.inj signatureEq
  obtain ⟨firstColumn, operator, _, _, _, _, firstColumnOk, firstOperator, _, _, _,
    rfl⟩ := fragmentIn_eq_ok_iff.mp firstOk
  obtain ⟨secondColumn, other, _, _, _, _, secondColumnOk, secondOperator, _, _, _,
    rfl⟩ := fragmentIn_eq_ok_iff.mp secondOk
  obtain rfl : operator = other := by
    rw [operatorEq, secondOperator] at firstOperator
    exact (Option.some.inj firstOperator).symm
  rw [← fieldEq] at secondColumnOk
  constructor
  · exact (names _ _ firstColumnOk secondColumnOk).fragment_sql_eq operator
      _ _ _ _ _ _
  · rw [Column.isSome_argument_fragment, Column.isSome_argument_fragment]

end Condition

namespace Query

/-- Whether two queries differ at most in the values of their conditions and in
the related records to load. -/
structure SameShape (first second : Query) : Prop where
  conditions : first.conditions.map Condition.signature =
    second.conditions.map Condition.signature
  group : first.group = second.group
  accumulator : first.accumulator = second.accumulator
  sort : first.sort = second.sort
  limit : first.limit = second.limit
  skip : first.skip = second.skip

variable {first second : Query} {firstSchema secondSchema : Schema}

theorem conjunction_of_sameShape (shape : first.SameShape second)
    (names : ∀ field ∈ first.fields, firstSchema.SameNames secondSchema field)
    {firstFragments secondFragments : List Fragment}
    (firstOk : Condition.fragments firstSchema first.conditions =
      .ok firstFragments)
    (secondOk : Condition.fragments secondSchema second.conditions =
      .ok secondFragments) :
    (Fragment.conjunction firstFragments).sql =
        (Fragment.conjunction secondFragments).sql ∧
      (Fragment.conjunction firstFragments).arguments.length =
        (Fragment.conjunction secondFragments).arguments.length := by
  apply Fragment.conjunction_of_sameText
  have related : List.Forall₂ (fun firstCondition secondCondition =>
      firstCondition ∈ first.conditions ∧
        firstCondition.signature = Condition.signature secondCondition)
      first.conditions second.conditions :=
    (List.forall₂_and_left _ _).mpr
      ⟨fun _ conditionMem => conditionMem, map_eq_map_iff.mp shape.conditions⟩
  refine forall₂_of_mapM related ?_ firstOk secondOk
  rintro firstCondition secondCondition _ _ ⟨conditionMem, signatureEq⟩
  exact Condition.sameText_of_signature_eq signatureEq
    (names _ (field_mem_fields_of_condition conditionMem))

theorem selectItems_of_sameShape (shape : first.SameShape second)
    (names : ∀ field ∈ first.fields, firstSchema.SameNames secondSchema field)
    {firstItems secondItems : List String}
    (firstOk : first.selectItems firstSchema = .ok firstItems)
    (secondOk : second.selectItems secondSchema = .ok secondItems) :
    firstItems = secondItems := by
  rw [selectItems_eq] at firstOk secondOk
  rw [← shape.group, ← shape.accumulator] at secondOk
  refine Schema.eq_of_render ?_ ?_ firstOk secondOk
  · intro field fieldMem
    exact names field (mem_fields_of_select fieldMem)
  · intro _ _ _ sameNames
    exact sameNames.selection_eq

theorem groupItems_of_sameShape (shape : first.SameShape second)
    (names : ∀ field ∈ first.fields, firstSchema.SameNames secondSchema field)
    {firstItems secondItems : List String}
    (firstOk : first.groupItems firstSchema = .ok firstItems)
    (secondOk : second.groupItems secondSchema = .ok secondItems) :
    firstItems = secondItems := by
  rw [groupItems_eq] at firstOk secondOk
  rw [← shape.group] at secondOk
  refine Schema.eq_of_render ?_ ?_ firstOk secondOk
  · intro field fieldMem
    exact names field (mem_fields_of_group fieldMem)
  · intro _ _ _ sameNames
    exact sameNames.1

theorem orderItems_of_sameShape (shape : first.SameShape second)
    (names : ∀ field ∈ first.fields, firstSchema.SameNames secondSchema field)
    {firstItems secondItems : List String}
    (firstOk : first.orderItems firstSchema = .ok firstItems)
    (secondOk : second.orderItems secondSchema = .ok secondItems) :
    firstItems = secondItems := by
  rw [orderItems_eq] at firstOk secondOk
  rw [← shape.sort] at secondOk
  refine Schema.eq_of_render ?_ ?_ firstOk secondOk
  · intro entry entryMem
    exact names entry.field (field_mem_fields_of_sort entryMem)
  · intro _ _ _ sameNames
    rw [sameNames.1]

theorem parts_of_sameShape (shape : first.SameShape second)
    (names : ∀ field ∈ first.fields, firstSchema.SameNames secondSchema field)
    {firstParts secondParts : SelectParts}
    {firstArguments secondArguments : List Value}
    (firstOk : first.parts firstSchema = .ok (firstParts, firstArguments))
    (secondOk : second.parts secondSchema = .ok (secondParts, secondArguments)) :
    firstParts = secondParts ∧
      firstArguments.length = secondArguments.length := by
  obtain ⟨firstSelect, firstFragments, firstGroup, firstOrder, firstSelectOk,
    firstFragmentsOk, firstGroupOk, firstOrderOk, rfl, rfl⟩ :=
    parts_eq_ok_iff.mp firstOk
  obtain ⟨secondSelect, secondFragments, secondGroup, secondOrder,
    secondSelectOk, secondFragmentsOk, secondGroupOk, secondOrderOk, rfl, rfl⟩ :=
    parts_eq_ok_iff.mp secondOk
  obtain ⟨sqlEq, lengthEq⟩ :=
    conjunction_of_sameShape shape names firstFragmentsOk secondFragmentsOk
  refine ⟨?_, lengthEq⟩
  rw [selectItems_of_sameShape shape names firstSelectOk secondSelectOk, sqlEq,
    groupItems_of_sameShape shape names firstGroupOk secondGroupOk,
    orderItems_of_sameShape shape names firstOrderOk secondOrderOk, shape.limit,
    shape.skip]

/-- Queries of one shape over schemas with one set of names have one text, and
arguments of one number, in every form in which they are compiled. -/
theorem sql_eq_of_sameShape {first second : Query}
    {firstSchema secondSchema : Schema} (shape : first.SameShape second)
    (names : ∀ field ∈ first.fields,
      firstSchema.SameNames secondSchema field) :
    (∀ table firstStatement secondStatement,
      first.statement firstSchema table = .ok firstStatement →
        second.statement secondSchema table = .ok secondStatement →
          firstStatement.sql = secondStatement.sql ∧
            firstStatement.arguments.length =
              secondStatement.arguments.length) ∧
      (∀ firstFilter secondFilter,
        first.filter firstSchema = .ok firstFilter →
          second.filter secondSchema = .ok secondFilter →
            firstFilter.sql = secondFilter.sql ∧
              firstFilter.arguments.length = secondFilter.arguments.length) ∧
      (∀ firstRelations secondRelations firstPlan secondPlan,
        first.plan firstSchema firstRelations = .ok firstPlan →
          second.plan secondSchema secondRelations = .ok secondPlan →
            firstPlan.parts = secondPlan.parts ∧
              firstPlan.arguments.length = secondPlan.arguments.length) := by
  refine ⟨?_, ?_, ?_⟩
  · intro table firstStatement secondStatement firstOk secondOk
    obtain ⟨firstParts, firstArguments, firstPartsOk, rfl⟩ :=
      statement_eq_ok_iff.mp firstOk
    obtain ⟨secondParts, secondArguments, secondPartsOk, rfl⟩ :=
      statement_eq_ok_iff.mp secondOk
    obtain ⟨partsEq, lengthEq⟩ :=
      parts_of_sameShape shape names firstPartsOk secondPartsOk
    exact ⟨by rw [partsEq], lengthEq⟩
  · intro firstFilter secondFilter firstOk secondOk
    obtain ⟨firstFragments, firstFragmentsOk, rfl⟩ :=
      Condition.filter_eq_ok_iff.mp firstOk
    obtain ⟨secondFragments, secondFragmentsOk, rfl⟩ :=
      Condition.filter_eq_ok_iff.mp secondOk
    exact conjunction_of_sameShape shape names firstFragmentsOk secondFragmentsOk
  · intro firstRelations secondRelations firstPlan secondPlan firstOk secondOk
    exact parts_of_sameShape shape names (plan_eq_ok_iff.mp firstOk).1
      (plan_eq_ok_iff.mp secondOk).1

/-- Two fields, the first with a name, an alias and a converter. -/
def agedSchema (converter : Converter) : Schema :=
  .ofList
    [("age", ⟨some "users.age", some "years", some converter⟩),
      ("note", .unset)]

/-- Conditions of one shape on both fields. -/
def agedQuery (ages notes : List String) : Query :=
  ⟨[⟨"age", "gt", ages⟩, ⟨"note", "nin", notes⟩, ⟨"age", "isnull", ages⟩],
    [], ["age"], ["note"], [⟨"age", true⟩], 10, -1⟩

theorem sql_eq_of_sameShape_of_payload :
    ∃ first second,
      (agedQuery ["18"] ["a"]).statement (agedSchema .integer) "users" =
          .ok first ∧
        (agedQuery ["'; DROP TABLE users; --?", ""] ["?", "b", "c"]).statement
            (agedSchema (.custom 0 fun raw => .ok (.list [.text raw]))) "users" =
          .ok second ∧
        first.sql = second.sql ∧
        first.arguments.length = second.arguments.length := by
  have shape : (agedQuery ["18"] ["a"]).SameShape
      (agedQuery ["'; DROP TABLE users; --?", ""] ["?", "b", "c"]) :=
    ⟨rfl, rfl, rfl, rfl, rfl, rfl⟩
  have names : ∀ field ∈ (agedQuery ["18"] ["a"]).fields,
      (agedSchema .integer).SameNames
        (agedSchema (.custom 0 fun raw => .ok (.list [.text raw]))) field := by
    intro field fieldMem firstColumn secondColumn firstOk secondOk
    have fieldsMem : ∀ name ∈ (agedQuery ["18"] ["a"]).fields,
        name ∈ ["age", "note"] := by
      decide
    rcases List.mem_pair.mp (fieldsMem field fieldMem) with rfl | rfl
    · cases firstOk
      cases secondOk
      exact ⟨rfl, rfl⟩
    · cases firstOk
      cases secondOk
      exact ⟨rfl, rfl⟩
  obtain ⟨sqlEq, lengthEq⟩ :=
    (sql_eq_of_sameShape shape names).1 "users" _ _ rfl rfl
  exact ⟨_, _, rfl, rfl, sqlEq, lengthEq⟩

end Query

end FilterSql
