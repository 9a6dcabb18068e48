import FilterSql.Proofs.FragmentExpansion

/-!
# Conditions and their operators

Whether a condition becomes a fragment depends on its values and on the column
that reads them, and not on which operator of the vocabulary it names: every value
is converted, also one that the operator makes no use of.  The operator decides
what the fragment binds, and the text of the fragment has one placeholder more
than the column when it binds something.
-/

namespace FilterSql

open Placeholders Traversal

namespace Operator

/-- The argument that an operator binds, given the raw values of a condition and
what they are converted to. -/
def argument (raws : List String) (values : List Value) :
    Operator → Option Value
  | .isNull => none
  | .equal | .notEqual | .greater | .less | .greaterOrEqual | .lessOrEqual =>
      values.head?
  | .containsAnyCase | .lacksAnyCase | .contains | .lacks =>
      raws.head?.map fun raw => .text ("%" ++ raw ++ "%")
  | .among | .notAmong => some (.list values)

/-- Among conditions with values, only the test for null binds nothing. -/
theorem argument_cons_eq_none_iff {raw : String} {raws : List String}
    {first : Value} {others : List Value} {operator : Operator} :
    operator.argument (raw :: raws) (first :: others) = none ↔
      operator = .isNull := by
  cases operator <;> simp [argument]

end Operator

namespace Column

variable {column : Column}

theorem read_eq_ok_iff {raw : String} {value : Value} :
    column.read raw = .ok value ↔ column.convert raw = .ok value :=
  mapError_eq_ok_iff

theorem argument_fragment (column : Column) (raw : String) (raws : List String)
    (first : Value) (others : List Value) (operator : Operator) :
    (column.fragment raw first others operator).argument =
      operator.argument (raw :: raws) (first :: others) := by
  cases operator <;> rfl

/-- A column whose quotes are even in number leaves the scan outside quotes, so
that the fragment adds exactly the placeholder of its argument. -/
theorem count_fragment (quotesEven : Even (column.expression.toList.count quote))
    (raw : String) (first : Value) (others : List Value) (operator : Operator) :
    count (column.fragment raw first others operator).sql.toList =
      count column.expression.toList +
        (column.fragment raw first others operator).argument.toList.length := by
  have expressionHas : HasPlaceholders column.expression
      (count column.expression.toList) :=
    ⟨endsUnquoted_iff_even.mpr quotesEven, rfl⟩
  exact (hasPlaceholders_fragment expressionHas raw first others operator).2

end Column

namespace Condition

variable {column : Column} {field : String} {values : List String}

theorem resolvedOperator_name (field : String) (operator : Operator)
    (values : List String) :
    resolvedOperator ⟨field, operator.name, values⟩ = .ok operator :=
  resolvedOperator_eq_ok_iff.mpr (Operator.ofName?_name operator)

/-- The failure of a condition with a known operator does not mention the
operator. -/
theorem failure?_fragment_name (column : Column) (field : String)
    (operator : Operator) (values : List String) :
    failure? (fragment ⟨field, operator.name, values⟩ column) =
      if values = [] then some (.noValues field)
      else values.findSome? fun raw => failure? (column.read raw) := by
  have converted :=
    failure?_convertedValues_eq ⟨field, operator.name, values⟩ column
  rw [failure?_mapM] at converted
  rw [fragment, resolvedOperator_name]
  exact (failure?_bind_pure _ _).trans converted

theorem exists_fragment_name_iff {operator : Operator} :
    (∃ result, fragment ⟨field, operator.name, values⟩ column = .ok result) ↔
      values ≠ [] ∧
        ∀ raw ∈ values, ∃ value, column.convert raw = .ok value := by
  rw [← failure?_eq_none_iff, failure?_fragment_name]
  by_cases missing : values = []
  · simp [missing]
  · simp only [missing, if_false, List.findSome?_eq_none_iff,
      failure?_eq_none_iff, Column.read_eq_ok_iff, ne_eq, not_false_eq_true,
      true_and]

theorem fragment_name_eq_ok_iff {operator : Operator} {result : Fragment} :
    fragment ⟨field, operator.name, values⟩ column = .ok result ↔
      ∃ raw raws first others, values = raw :: raws ∧
        column.read raw = .ok first ∧ raws.mapM column.read = .ok others ∧
        column.fragment raw first others operator = result := by
  rw [fragment, resolvedOperator_name]
  simp only [bind_eq_ok_iff, pure_eq_ok_iff, Except.ok.injEq, exists_eq_left',
    Prod.exists, convertedValues_eq_ok_iff]
  constructor
  · rintro ⟨raw, first, others, ⟨raws, valuesEq, firstOk, othersOk⟩, rfl⟩
    exact ⟨raw, raws, first, others, valuesEq, firstOk, othersOk, rfl⟩
  · rintro ⟨raw, raws, first, others, valuesEq, firstOk, othersOk, rfl⟩
    exact ⟨raw, first, others, ⟨raws, valuesEq, firstOk, othersOk⟩, rfl⟩

/-- Conditions on one column with the same values are accepted alike, whatever
their operators, and a fragment pairs its placeholder with the argument that its
operator asks for. -/
theorem fragment_outcome (column : Column) (field : String)
    (values : List String) :
    (∀ first second : Operator,
        failure? (fragment ⟨field, first.name, values⟩ column) =
          failure? (fragment ⟨field, second.name, values⟩ column)) ∧
      (∀ operator : Operator,
        (∃ result,
            fragment ⟨field, operator.name, values⟩ column = .ok result) ↔
          values ≠ [] ∧
            ∀ raw ∈ values, ∃ value, column.convert raw = .ok value) ∧
      ∀ (operator : Operator) (result : Fragment),
        fragment ⟨field, operator.name, values⟩ column = .ok result →
          ∃ converted,
            List.Forall₂ (fun raw value => column.convert raw = .ok value)
                values converted ∧
              result.argument = operator.argument values converted ∧
              (result.argument = none ↔ operator = .isNull) ∧
              (Even (column.expression.toList.count quote) →
                count result.sql.toList = count column.expression.toList +
                  result.argument.toList.length) := by
  refine ⟨?_, fun operator => exists_fragment_name_iff, ?_⟩
  · intro first second
    rw [failure?_fragment_name, failure?_fragment_name]
  · intro operator result compiled
    obtain ⟨raw, raws, first, others, rfl, firstOk, othersOk, rfl⟩ :=
      fragment_name_eq_ok_iff.mp compiled
    have argumentEq :=
      column.argument_fragment raw raws first others operator
    refine ⟨first :: others, ?_, argumentEq, ?_, ?_⟩
    · refine .cons (Column.read_eq_ok_iff.mp firstOk) ?_
      exact (mapM_eq_ok_iff.mp othersOk).imp fun _ _ => Column.read_eq_ok_iff.mp
    · rw [argumentEq, Operator.argument_cons_eq_none_iff]
    · exact fun quotesEven =>
        Column.count_fragment quotesEven raw first others operator

/-- A column with a mark outside quotes and another one inside them. -/
def taggedColumn : Column :=
  ⟨"tags ? 'a?'", "tags", some .integer⟩

theorem fragment_outcome_of_taggedColumn :
    (∃ result,
      fragment ⟨"tags", "nin", ["07", "-8"]⟩ taggedColumn = .ok result ∧
        result.argument = some (.list [.integer 7, .integer (-8)]) ∧
        count result.sql.toList = 2) ∧
      (∃ result,
        fragment ⟨"tags", "ncontain", ["07", "-8"]⟩ taggedColumn = .ok result ∧
          result.argument = some (.text "%07%") ∧
          count result.sql.toList = 2) ∧
      failure? (fragment ⟨"tags", "isnull", ["07", "x"]⟩ taggedColumn) =
        some (.conversion (.integer "x" .invalidDigit)) := by
  have quotesEven : Even (taggedColumn.expression.toList.count quote) := by
    decide
  obtain ⟨_, _, pairs⟩ := fragment_outcome taggedColumn "tags" ["07", "-8"]
  refine ⟨⟨_, rfl, rfl, ?_⟩, ⟨_, rfl, rfl, ?_⟩, ?_⟩
  · obtain ⟨_, _, _, _, countEq⟩ := pairs .notAmong _ rfl
    exact countEq quotesEven
  · obtain ⟨_, _, _, _, countEq⟩ := pairs .lacksAnyCase _ rfl
    exact countEq quotesEven
  · obtain ⟨alike, _⟩ := fragment_outcome taggedColumn "tags" ["07", "x"]
    exact (alike .isNull .equal).trans rfl

end Condition

end FilterSql
