import FilterSql.QueryString

/-!
# Condition keys

A key splits into field and operator at its last underscore.  No operator of the
vocabulary and no reserved key holds an underscore, so a condition with such an
operator is recovered from its key, and no condition has a reserved key.

The main statement says which condition a parameter describes: the valid one
with the parameter's key and values, if there is one.
-/

namespace FilterSql

namespace Operator

/-- The words of the operators. -/
def vocabulary : List String :=
  all.map name

theorem mem_vocabulary_iff {word : String} :
    word ∈ vocabulary ↔ ∃ operator : Operator, operator.name = word := by
  simp [vocabulary, mem_all]

theorem isSome_ofName?_iff {word : String} :
    (ofName? word).isSome = true ↔ word ∈ vocabulary := by
  rw [Option.isSome_iff_exists, mem_vocabulary_iff]
  exact exists_congr fun _ => ofName?_eq_some_iff

theorem underscore_notMem_of_mem_vocabulary {word : String}
    (wordMem : word ∈ vocabulary) : '_' ∉ word.toList := by
  have every : ∀ word ∈ vocabulary, '_' ∉ word.toList := by decide
  exact every word wordMem

end Operator

namespace Condition

theorem splitLast?_eq_none_iff {separator : Char} {text : List Char} :
    splitLast? separator text = none ↔ separator ∉ text := by
  induction text with
  | nil => simp [splitLast?]
  | cons first rest ih =>
      cases splits : splitLast? separator rest with
      | none =>
          have restLacks : separator ∉ rest := ih.mp splits
          by_cases isSeparator : first = separator
          · simp [splitLast?, splits, isSeparator]
          · simp [splitLast?, splits, isSeparator, restLacks,
              Ne.symm isSeparator]
      | some parts =>
          have restHas : separator ∈ rest :=
            Decidable.byContradiction fun lacks => by
              simp [ih.mpr lacks] at splits
          simp [splitLast?, splits, restHas]

theorem splitLast?_append {separator : Char} {after : List Char}
    (notMem : separator ∉ after) (before : List Char) :
    splitLast? separator (before ++ separator :: after) =
      some (before, after) := by
  induction before with
  | nil => simp [splitLast?, splitLast?_eq_none_iff.mpr notMem]
  | cons first before ih => simp [splitLast?, ih]

theorem of_splitLast?_eq_some {separator : Char} {text before after : List Char}
    (splits : splitLast? separator text = some (before, after)) :
    text = before ++ separator :: after ∧ separator ∉ after := by
  induction text generalizing before with
  | nil => simp [splitLast?] at splits
  | cons first rest ih =>
      rw [splitLast?] at splits
      split at splits
      case h_1 restBefore restAfter restSplits =>
        obtain ⟨rfl, rfl⟩ : first :: restBefore = before ∧ restAfter = after := by
          simpa using splits
        obtain ⟨restEq, notMem⟩ := ih restSplits
        exact ⟨by rw [restEq, List.cons_append], notMem⟩
      case h_2 restSplits =>
        split at splits
        case isTrue isSeparator =>
          obtain ⟨rfl, rfl⟩ : [] = before ∧ rest = after := by
            simpa using splits
          exact ⟨by simp [isSeparator], splitLast?_eq_none_iff.mp restSplits⟩
        case isFalse => simp at splits

theorem splitKey?_eq_some_iff {key field operator : String} :
    splitKey? key = some (field, operator) ↔
      key = field ++ "_" ++ operator ∧ '_' ∉ operator.toList := by
  constructor
  · intro splits
    obtain ⟨⟨before, after⟩, listSplits, partsEq⟩ :=
      Option.map_eq_some_iff.mp splits
    obtain ⟨rfl, rfl⟩ : String.ofList before = field ∧
        String.ofList after = operator := by
      simpa using partsEq
    obtain ⟨keyEq, notMem⟩ := of_splitLast?_eq_some listSplits
    refine ⟨String.toList_inj.mp ?_, by simpa using notMem⟩
    simp [keyEq]
  · rintro ⟨rfl, notMem⟩
    have listSplits := splitLast?_append notMem field.toList
    simp [splitKey?, listSplits]

theorem splitKey?_key {condition : Condition}
    (notMem : '_' ∉ condition.operator.toList) :
    splitKey? condition.key = some (condition.field, condition.operator) :=
  splitKey?_eq_some_iff.mpr ⟨rfl, notMem⟩

theorem underscore_notMem_of_mem_reservedKeys {key : String}
    (reserved : key ∈ Query.reservedKeys) : '_' ∉ key.toList := by
  have every : ∀ key ∈ Query.reservedKeys, '_' ∉ key.toList := by decide
  exact every key reserved

theorem key_notMem_reservedKeys (condition : Condition) :
    condition.key ∉ Query.reservedKeys := by
  intro reserved
  have lacks := underscore_notMem_of_mem_reservedKeys reserved
  simp [key] at lacks

theorem isValid_iff {condition : Condition} :
    condition.isValid = true ↔
      condition.operator ∈ Operator.vocabulary ∧
        condition.field ≠ "" ∧ condition.values ≠ [] := by
  simp [isValid, Operator.isSome_ofName?_iff, and_assoc]

theorem underscore_notMem_operator {condition : Condition}
    (valid : condition.isValid = true) : '_' ∉ condition.operator.toList :=
  Operator.underscore_notMem_of_mem_vocabulary (isValid_iff.mp valid).1

theorem ofParameter?_of_mem_reservedKeys {key : String}
    (reserved : key ∈ Query.reservedKeys) (values : List String) :
    ofParameter? key values = none := by
  simp [ofParameter?, Query.isReserved, reserved]

/-- A parameter describes the valid condition with its key and its values. -/
theorem ofParameter?_eq_some_iff {key : String} {values : List String}
    {condition : Condition} :
    ofParameter? key values = some condition ↔
      condition.isValid = true ∧ condition.key = key ∧
        condition.values = values := by
  constructor
  · intro described
    rw [ofParameter?] at described
    split at described
    case isTrue => simp at described
    split at described
    case h_1 => simp at described
    case h_2 field operator splits =>
      dsimp only at described
      split at described
      case isFalse => simp at described
      case isTrue valid =>
        obtain rfl := Option.some.inj described
        exact ⟨valid, (splitKey?_eq_some_iff.mp splits).1.symm, rfl⟩
  · rintro ⟨valid, rfl, rfl⟩
    have notReserved : Query.isReserved condition.key = false := by
      simpa [Query.isReserved] using condition.key_notMem_reservedKeys
    have splits := splitKey?_key (underscore_notMem_operator valid)
    simp [ofParameter?, notReserved, splits, valid]

/-- Valid conditions with one key have one field and one operator. -/
theorem eq_of_key_eq {first second : Condition}
    (firstValid : first.isValid = true) (secondValid : second.isValid = true)
    (keyEq : first.key = second.key) :
    first.field = second.field ∧ first.operator = second.operator := by
  have firstSplits := splitKey?_key (underscore_notMem_operator firstValid)
  have secondSplits := splitKey?_key (underscore_notMem_operator secondValid)
  rw [keyEq, secondSplits] at firstSplits
  simpa [eq_comm] using firstSplits

end Condition

namespace Parameters

/-- Each condition takes its key from a parameter of its own. -/
theorem keys_conditions_sublist (parameters : Parameters) :
    (parameters.conditions.map Condition.key).Sublist
      (parameters.entries.map Prod.fst) := by
  unfold conditions
  induction parameters.entries with
  | nil => exact List.Sublist.slnil
  | cons entry entries ih =>
      obtain ⟨key, values⟩ := entry
      rw [List.filterMap_cons, List.map_cons]
      split
      case h_1 => exact ih.cons key
      case h_2 condition described =>
        have keyEq := (Condition.ofParameter?_eq_some_iff.mp described).2.1
        rw [List.map_cons, keyEq]
        exact ih.cons_cons key

end Parameters

end FilterSql
