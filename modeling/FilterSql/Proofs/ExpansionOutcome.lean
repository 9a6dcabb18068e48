import FilterSql.Proofs.PlaceholderBinding

/-!
# How an expansion ends

The number of placeholders and the arguments decide how the expansion of a
statement ends: with an empty list that one of the placeholders would take, or
else with the two numbers when they differ, or else with as many placeholders as
flat arguments.
-/

namespace FilterSql

open Traversal

namespace Placeholders

/-- A scan fails on an empty list that it reaches before the placeholders or the
arguments run out, and otherwise when one of them runs out alone. -/
theorem failure?_expandFrom (mismatch : ExpansionError) (quoted : Bool)
    (text : List Char) (arguments : List Value) :
    failure? (expandFrom mismatch quoted text arguments) =
      if (arguments.take (countFrom quoted text)).any
          fun argument => (replacements argument).isEmpty then
        some .emptyList
      else if countFrom quoted text = arguments.length then none
      else some mismatch := by
  induction text generalizing quoted arguments with
  | nil => cases arguments <;> simp [expandFrom, countFrom, failure?]
  | cons first rest ih =>
      obtain ⟨rfl, rfl⟩ | plain := placeholder_or_plain quoted first
      · rw [countFrom_placeholder]
        cases arguments with
        | nil => simp [expandFrom, isPlaceholder, failure?]
        | cons argument remaining =>
            rw [expandFrom_placeholder, List.take_succ_cons, List.any_cons,
              List.length_cons]
            split
            case isTrue isEmpty => simp [isEmpty, failure?]
            case isFalse notEmpty =>
              rw [failure?_bind_pure, ih]
              simp [notEmpty]
      · rw [expandFrom_of_not_isPlaceholder plain, failure?_bind_pure, ih,
          countFrom_of_not_isPlaceholder plain]

theorem isEmpty_replacements_iff {argument : Value} :
    (replacements argument).isEmpty = true ↔ argument = .list [] := by
  cases argument <;> simp [replacements]

/-- The placeholders of an expansion are as many as its arguments. -/
theorem Expands.countFrom_eq {quoted : Bool} {text expanded : List Char}
    {arguments flat : List Value}
    (expands : Expands quoted text arguments expanded flat) :
    countFrom quoted expanded = flat.length := by
  induction expands with
  | done => rfl
  | placeholder argument _ _ ih =>
      rw [countFrom_placeholders_append, ih, List.length_append]
  | other plain _ ih => rw [countFrom_of_not_isPlaceholder plain, ih]

end Placeholders

namespace BoundSql

open Placeholders

/-- The number of marks outside quotes. -/
def markCount (statement : BoundSql) : Nat :=
  (marks statement.sql.toList).length

/-- Whether one of the placeholders would take an empty list. -/
def BindsEmptyList (statement : BoundSql) : Prop :=
  ∃ index < min statement.markCount statement.arguments.length,
    statement.arguments[index]? = some (.list [])

variable {statement expanded : BoundSql}

theorem bindsEmptyList_iff : statement.BindsEmptyList ↔
    (statement.arguments.take (count statement.sql.toList)).any
      (fun argument => (replacements argument).isEmpty) = true := by
  simp only [List.any_eq_true, isEmpty_replacements_iff,
    List.mem_take_iff_getElem, BindsEmptyList, markCount, length_marks]
  constructor
  · rintro ⟨index, bound, found⟩
    obtain ⟨inside, found⟩ := List.getElem?_eq_some_iff.mp found
    exact ⟨_, ⟨index, bound, rfl⟩, found⟩
  · rintro ⟨_, ⟨index, bound, rfl⟩, found⟩
    exact ⟨index, bound, List.getElem?_eq_some_iff.mpr ⟨_, found⟩⟩

instance (statement : BoundSql) : Decidable statement.BindsEmptyList :=
  decidable_of_iff _ bindsEmptyList_iff.symm

theorem failure?_expand (statement : BoundSql) :
    failure? statement.expand =
      if statement.BindsEmptyList then some .emptyList
      else if statement.markCount = statement.arguments.length then none
      else some (.mismatch statement.markCount statement.arguments.length) := by
  obtain ⟨sql, arguments⟩ := statement
  rw [expand_eq_map, failure?_map, failure?_expandFrom]
  simp only [bindsEmptyList_iff, markCount, length_marks]
  rfl

theorem expand_eq_emptyList_iff :
    statement.expand = .error .emptyList ↔ statement.BindsEmptyList := by
  rw [← failure?_eq_some_iff, failure?_expand]
  split
  case isTrue binds => exact iff_of_true rfl binds
  case isFalse notBinds =>
    refine iff_of_false ?_ notBinds
    split <;> simp

theorem expand_eq_mismatch_iff {placeholders arguments : Nat} :
    statement.expand = .error (.mismatch placeholders arguments) ↔
      ¬statement.BindsEmptyList ∧ placeholders ≠ arguments ∧
        placeholders = statement.markCount ∧
        arguments = statement.arguments.length := by
  rw [← failure?_eq_some_iff, failure?_expand]
  constructor
  · intro reported
    split at reported
    case isTrue => cases reported
    case isFalse notBinds =>
      split at reported
      case isTrue => cases reported
      case isFalse different =>
        cases reported
        exact ⟨notBinds, different, rfl, rfl⟩
  · rintro ⟨notBinds, different, rfl, rfl⟩
    rw [if_neg notBinds, if_neg different]

theorem exists_expand_eq_ok_iff :
    (∃ expanded, statement.expand = .ok expanded) ↔
      ¬statement.BindsEmptyList ∧
        statement.markCount = statement.arguments.length := by
  rw [← failure?_eq_none_iff, failure?_expand]
  split
  case isTrue binds => simp [binds]
  case isFalse notBinds => simp [notBinds]

theorem markCount_eq_length_of_expand
    (expandedOk : statement.expand = .ok expanded) :
    expanded.markCount = expanded.arguments.length :=
  (length_marks _).trans (expands_of_expand expandedOk).countFrom_eq

theorem expand_eq_ok (statement : BoundSql)
    (countEq : count statement.sql.toList = statement.arguments.length)
    (nonempty : ∀ argument ∈ statement.arguments, replacements argument ≠ []) :
    ∃ expanded, statement.expand = .ok expanded ∧
      expanded.arguments = statement.arguments.flatMap replacements ∧
      count expanded.sql.toList = expanded.arguments.length := by
  have notBinds : ¬statement.BindsEmptyList := by
    rintro ⟨_, _, found⟩
    exact nonempty _ (List.mem_of_getElem? found) rfl
  obtain ⟨expanded, expandedOk⟩ := exists_expand_eq_ok_iff.mpr
    ⟨notBinds, (length_marks _).trans countEq⟩
  have expands := expands_of_expand expandedOk
  exact ⟨expanded, expandedOk, expands.flat_eq, expands.countFrom_eq⟩

/-- An expansion ends with an empty list when one of the placeholders would take
one, and otherwise with the number of the placeholders and the number of the
arguments when they differ.  In all other cases it succeeds, with as many
placeholders as arguments. -/
theorem expand_outcome (statement : BoundSql) :
    (statement.expand = .error .emptyList ↔ statement.BindsEmptyList) ∧
      (∀ placeholders arguments,
        statement.expand = .error (.mismatch placeholders arguments) ↔
          ¬statement.BindsEmptyList ∧ placeholders ≠ arguments ∧
            placeholders = statement.markCount ∧
            arguments = statement.arguments.length) ∧
      ((∃ expanded, statement.expand = .ok expanded) ↔
        ¬statement.BindsEmptyList ∧
          statement.markCount = statement.arguments.length) ∧
      ∀ expanded, statement.expand = .ok expanded →
        expanded.markCount = expanded.arguments.length := by
  refine ⟨expand_eq_emptyList_iff, ?_, exists_expand_eq_ok_iff, ?_⟩
  · intro placeholders arguments
    exact expand_eq_mismatch_iff
  · intro expanded expandedOk
    exact markCount_eq_length_of_expand expandedOk

/-- Two placeholders after a quoted mark, and a quote that is left open before
another mark. -/
def openStatement (arguments : List Value) : BoundSql :=
  ⟨"a = '?' AND b IN (?) AND c = ? AND d = '?", arguments⟩

/-- An empty list is reported before a missing argument, but not when only the
arguments that are left over hold it. -/
theorem expand_outcome_of_openStatement :
    (openStatement [.list []]).expand = .error .emptyList ∧
      (openStatement [.list [.text "x"], .boolean true, .list []]).expand =
        .error (.mismatch 2 3) ∧
      ∃ expanded,
        (openStatement [.list [.text "x", .text "y"], .boolean true]).expand =
            .ok expanded ∧
          expanded.markCount = expanded.arguments.length := by
  have emptyFails := (expand_outcome (openStatement [.list []])).1
  have leftoverFails := (expand_outcome
    (openStatement [.list [.text "x"], .boolean true, .list []])).2.1
  obtain ⟨_, _, succeeds, countsAgree⟩ := expand_outcome
    (openStatement [.list [.text "x", .text "y"], .boolean true])
  refine ⟨emptyFails.mpr ⟨0, by decide, rfl⟩,
    (leftoverFails 2 3).mpr ⟨by decide, by decide, by decide, rfl⟩, ?_⟩
  obtain ⟨expanded, expandedOk⟩ := succeeds.mpr ⟨by decide, by decide⟩
  exact ⟨expanded, expandedOk, countsAgree expanded expandedOk⟩

end BoundSql

end FilterSql
