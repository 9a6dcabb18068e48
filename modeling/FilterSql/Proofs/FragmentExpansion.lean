import FilterSql.Proofs.Compilation
import FilterSql.Proofs.PlaceholderScan

/-!
# Expanding fragments

A fragment has one placeholder for its argument and none without it, as long as
the expression of its column is neutral.  What takes the place of the argument in
an expanded statement is decided by the operator of the condition and by its
converted values.
-/

namespace FilterSql

open Placeholders Traversal

namespace Converter

theorem isList_of_readWith {α cause : Type} {make : α → Value}
    {error : String → cause → ConversionError} {reading : Except cause α}
    {raw : String} {value : Value}
    (never : ∀ result, (make result).isList = false)
    (converted : readWith make error reading raw = .ok value) :
    value.isList = false := by
  unfold readWith at converted
  split at converted
  case h_1 result =>
    obtain rfl := Except.ok.inj converted
    exact never result
  case h_2 => cases converted

theorem isList_of_readBoolean {raw : String} {value : Value}
    (converted : readBoolean raw = .ok value) : value.isList = false := by
  unfold readBoolean at converted
  split at converted
  case isTrue =>
    cases converted
    rfl
  case isFalse =>
    split at converted
    case isTrue =>
      cases converted
      rfl
    case isFalse => cases converted

theorem isList_of_readFloat {raw : String} {value : Value}
    (converted : readFloat raw = .ok value) : value.isList = false := by
  unfold readFloat at converted
  split at converted
  case h_1 =>
    cases converted
    rfl
  case h_2 => cases converted

/-- A converter that has a name never gives a list. -/
theorem isList_of_convert {converter : Converter} {raw : String} {value : Value}
    (named : converter.name?.isSome = true)
    (converted : converter.convert raw = .ok value) : value.isList = false := by
  cases converter with
  | text =>
      cases converted
      rfl
  | integer => exact isList_of_readWith (fun _ => rfl) converted
  | boolean => exact isList_of_readBoolean converted
  | float => exact isList_of_readFloat converted
  | date => exact isList_of_readWith (fun _ => rfl) converted
  | dateTime => exact isList_of_readWith (fun _ => rfl) converted
  | time => exact isList_of_readWith (fun _ => rfl) converted
  | timestamp => exact isList_of_readWith (fun _ => rfl) converted
  | custom => cases named

end Converter

namespace Column

/-- Whether the texts that stand for a field are neutral. -/
def IsNeutral (column : Column) : Prop :=
  Placeholders.IsNeutral column.expression ∧
    Placeholders.IsNeutral column.aliasName

/-- Whether a supplied converter of the column never gives a list. -/
def SuppliesNoList (column : Column) : Prop :=
  ∀ identity read, column.converter = some (.custom identity read) →
    ∀ raw items, read raw ≠ .ok (.list items)

variable {column : Column}

theorem IsNeutral.selection (neutral : column.IsNeutral) :
    Placeholders.IsNeutral column.selection := by
  unfold Column.selection
  split
  case isTrue => exact neutral.1
  case isFalse =>
    exact (neutral.1.append_neutral (by decide)).append_neutral neutral.2

theorem hasPlaceholders_compared {number : Nat} {symbol : String}
    (expressionHas : HasPlaceholders column.expression number)
    (symbolNeutral : Placeholders.IsNeutral symbol) (value : Value) :
    HasPlaceholders (column.compared symbol value).sql (number + 1) := by
  have marked : HasPlaceholders " ?" 1 := by decide
  have spaced : HasPlaceholders (column.expression ++ " ") number :=
    expressionHas.append_neutral (by decide)
  exact (spaced.append_neutral symbolNeutral).append marked

theorem hasPlaceholders_matched {number : Nat} {keyword : String}
    (expressionHas : HasPlaceholders column.expression number)
    (keywordNeutral : Placeholders.IsNeutral keyword) (raw : String) :
    HasPlaceholders (column.matched keyword raw).sql (number + 1) := by
  have marked : HasPlaceholders " ?" 1 := by decide
  have castHas : HasPlaceholders (asText column.expression) number :=
    (IsNeutral.append (by decide) expressionHas).append_neutral (by decide)
  have spaced : HasPlaceholders (asText column.expression ++ " ") number :=
    castHas.append_neutral (by decide)
  exact (spaced.append_neutral keywordNeutral).append marked

theorem hasPlaceholders_tested {number : Nat} {keyword : String}
    (expressionHas : HasPlaceholders column.expression number)
    (keywordNeutral : Placeholders.IsNeutral keyword) (values : List Value) :
    HasPlaceholders (column.tested keyword values).sql (number + 1) := by
  have marked : HasPlaceholders " (?)" 1 := by decide
  have spaced : HasPlaceholders (column.expression ++ " ") number :=
    expressionHas.append_neutral (by decide)
  exact (spaced.append_neutral keywordNeutral).append marked

/-- A fragment has one placeholder more than its expression if it has an
argument. -/
theorem hasPlaceholders_fragment {number : Nat}
    (expressionHas : HasPlaceholders column.expression number) (raw : String)
    (first : Value) (others : List Value) (operator : Operator) :
    HasPlaceholders (column.fragment raw first others operator).sql (number +
      (column.fragment raw first others operator).argument.toList.length) := by
  cases operator with
  | isNull => exact expressionHas.append_neutral (by decide)
  | equal => exact hasPlaceholders_compared expressionHas (by decide) first
  | notEqual => exact hasPlaceholders_compared expressionHas (by decide) first
  | greater => exact hasPlaceholders_compared expressionHas (by decide) first
  | less => exact hasPlaceholders_compared expressionHas (by decide) first
  | greaterOrEqual =>
      exact hasPlaceholders_compared expressionHas (by decide) first
  | lessOrEqual =>
      exact hasPlaceholders_compared expressionHas (by decide) first
  | containsAnyCase =>
      exact hasPlaceholders_matched expressionHas (by decide) raw
  | lacksAnyCase =>
      exact hasPlaceholders_matched expressionHas (by decide) raw
  | contains => exact hasPlaceholders_matched expressionHas (by decide) raw
  | lacks => exact hasPlaceholders_matched expressionHas (by decide) raw
  | among =>
      exact hasPlaceholders_tested expressionHas (by decide) (first :: others)
  | notAmong =>
      exact hasPlaceholders_tested expressionHas (by decide) (first :: others)

theorem isList_of_read {raw : String} {value : Value}
    (noList : column.SuppliesNoList) (readOk : column.read raw = .ok value) :
    value.isList = false := by
  have converted : column.convert raw = .ok value :=
    mapError_eq_ok_iff.mp readOk
  unfold Column.convert at converted
  split at converted
  case h_1 converter converterEq =>
    cases converter with
    | custom identity read =>
        cases value with
        | list items => exact absurd converted (noList _ _ converterEq raw items)
        | _ => rfl
    | _ => exact Converter.isList_of_convert rfl converted
  case h_2 =>
    obtain rfl := Except.ok.inj converted
    rfl

end Column

namespace Operator

/-- The values that a condition with this operator binds in an expanded
statement, given its raw and its converted values. -/
def bound (raws : List String) (values : List Value) : Operator → List Value
  | .isNull => []
  | .equal | .notEqual | .greater | .less | .greaterOrEqual | .lessOrEqual =>
      values.take 1
  | .containsAnyCase | .lacksAnyCase | .contains | .lacks =>
      (raws.take 1).map Value.likePattern
  | .among | .notAmong => values

end Operator

namespace Fragment

/-- The values that take the place of the argument of a fragment. -/
def replacements (fragment : Fragment) : List Value :=
  fragment.argument.toList.flatMap Placeholders.replacements

theorem replacements_eq {fragment : Fragment} {argument : Value}
    (argumentEq : fragment.argument = some argument) :
    fragment.replacements = Placeholders.replacements argument := by
  simp [replacements, argumentEq]

theorem flatMap_replacements (fragments : List Fragment) :
    (conjunction fragments).arguments.flatMap Placeholders.replacements =
      fragments.flatMap replacements := by
  rw [conjunction, List.filterMap_eq_flatMap_toList, List.flatMap_assoc]
  rfl

/-- Whether a fragment has one placeholder for its argument, and its argument is
no empty list. -/
structure IsExpandable (fragment : Fragment) : Prop where
  placeholders : HasPlaceholders fragment.sql fragment.argument.toList.length
  nonempty : ∀ argument ∈ fragment.argument,
    Placeholders.replacements argument ≠ []

theorem hasPlaceholders_conjunction {fragments : List Fragment}
    (expandable : ∀ fragment ∈ fragments, fragment.IsExpandable) :
    HasPlaceholders (conjunction fragments).sql
      (conjunction fragments).arguments.length := by
  rw [length_arguments_conjunction]
  exact HasPlaceholders.intercalate (by decide)
    fun fragment fragmentMem => (expandable fragment fragmentMem).placeholders

theorem replacements_ne_nil_of_mem_conjunction {fragments : List Fragment}
    (expandable : ∀ fragment ∈ fragments, fragment.IsExpandable) :
    ∀ argument ∈ (conjunction fragments).arguments,
      Placeholders.replacements argument ≠ [] := by
  intro argument argumentMem
  obtain ⟨fragment, fragmentMem, argumentEq⟩ :=
    List.mem_filterMap.mp argumentMem
  exact (expandable fragment fragmentMem).nonempty argument argumentEq

end Fragment

namespace Column

/-- What takes the place of the argument is what the operator binds. -/
theorem replacements_fragment (column : Column) {first : Value}
    (noList : first.isList = false) (raw : String) (raws : List String)
    (others : List Value) (operator : Operator) :
    (column.fragment raw first others operator).replacements =
      operator.bound (raw :: raws) (first :: others) := by
  have comparedEq (symbol : String) :
      (column.compared symbol first).replacements = [first] :=
    (Fragment.replacements_eq rfl).trans (replacements_of_isList noList)
  have testedEq (keyword : String) :
      (column.tested keyword (first :: others)).replacements =
        first :: others := by
    rw [Fragment.replacements_eq rfl]
    rfl
  cases operator with
  | equal => exact comparedEq _
  | notEqual => exact comparedEq _
  | greater => exact comparedEq _
  | less => exact comparedEq _
  | greaterOrEqual => exact comparedEq _
  | lessOrEqual => exact comparedEq _
  | among => exact testedEq _
  | notAmong => exact testedEq _
  | _ => rfl

theorem isExpandable_fragment {column : Column}
    (neutral : Placeholders.IsNeutral column.expression) {first : Value}
    (noList : first.isList = false) (raw : String) (others : List Value)
    (operator : Operator) :
    (column.fragment raw first others operator).IsExpandable := by
  have fragmentHas :=
    hasPlaceholders_fragment neutral raw first others operator
  rw [Nat.zero_add] at fragmentHas
  refine ⟨fragmentHas, ?_⟩
  intro argument argumentMem
  rw [← Fragment.replacements_eq argumentMem,
    column.replacements_fragment noList raw []]
  cases operator with
  | isNull => exact absurd argumentMem (by simp [Column.fragment])
  | _ => simp [Operator.bound]

end Column

namespace Condition

/-- The values that a condition binds in an expanded statement. -/
def bound (schema : Schema) (condition : Condition) :
    Except CompileError (List Value) := do
  let column ← schema.column condition.field
  let operator ← condition.resolvedOperator
  let values ← condition.values.mapM column.read
  return operator.bound condition.values values

variable {schema : Schema} {condition : Condition} {fragment : Fragment}

theorem isExpandable_of_fragmentIn
    (neutral : ∀ column, schema.column condition.field = .ok column →
      column.IsNeutral)
    (noList : ∀ column, schema.column condition.field = .ok column →
      column.SuppliesNoList)
    (compiled : condition.fragmentIn schema = .ok fragment) :
    fragment.IsExpandable := by
  obtain ⟨column, operator, raw, _, first, others, columnOk, _, _, firstOk, _,
    rfl⟩ := fragmentIn_eq_ok_iff.mp compiled
  exact Column.isExpandable_fragment (neutral column columnOk).1
    (Column.isList_of_read (noList column columnOk) firstOk) raw others operator

theorem bound_of_fragmentIn
    (noList : ∀ column, schema.column condition.field = .ok column →
      column.SuppliesNoList)
    (compiled : condition.fragmentIn schema = .ok fragment) :
    condition.bound schema = .ok fragment.replacements := by
  obtain ⟨column, operator, raw, raws, first, others, columnOk, operatorOk,
    valuesEq, firstOk, othersOk, rfl⟩ := fragmentIn_eq_ok_iff.mp compiled
  have firstNoList := Column.isList_of_read (noList column columnOk) firstOk
  have valuesOk : condition.values.mapM column.read = .ok (first :: others) := by
    rw [mapM_eq_ok_iff, valuesEq]
    exact .cons firstOk (mapM_eq_ok_iff.mp othersOk)
  simp only [Condition.bound, bind_eq_ok_iff, pure_eq_ok_iff]
  refine ⟨column, columnOk, operator,
    resolvedOperator_eq_ok_iff.mpr operatorOk, _, valuesOk, ?_⟩
  rw [column.replacements_fragment firstNoList raw raws, valuesEq]

end Condition

end FilterSql
