import FilterSql.Proofs.QueryPairs
import Mathlib.Data.List.Basic
import Mathlib.Data.List.DropRight

/-!
# What a written query is read back as

Writing gives every value of a condition a pair under the condition's key, and
reading gathers the pairs of each key.  So a condition without values is lost,
conditions with one key are merged where the first of them stands, and what is
kept of them is what their keys spell.  The direction of a sort entry is read off
its text.  Everything else comes back as it was, and nothing makes the reading
fail.
-/

namespace FilterSql

namespace Condition

/-- The parameters that conditions are written as: those with values give them,
in order, to one parameter for each key, which stands where the key first
appears. -/
def merged (conditions : List Condition) : List (String × List String) :=
  let written := conditions.filter fun condition => condition.values ≠ []
  let keyOf := fun condition : Condition =>
    condition.field ++ "_" ++ condition.operator
  (written.map keyOf).eraseDups.map fun shared =>
    (shared,
      (written.filter fun condition => keyOf condition = shared).flatMap values)

/-- The condition that a key spells: the operator stands after the last
underscore and has to be known, and the field before it may not be empty. -/
def ofKey? (key : String) (values : List String) : Option Condition :=
  let operator := String.ofList (key.toList.rtakeWhile (· ≠ '_'))
  let field := String.ofList (key.toList.rdropWhile (· ≠ '_')).dropLast
  if field ≠ "" ∧ operator ∈ Operator.vocabulary then
    some ⟨field, operator, values⟩
  else none

theorem around_last_underscore (before : List Char) {after : List Char}
    (notMem : '_' ∉ after) :
    (before ++ '_' :: after).rtakeWhile (· ≠ '_') = after ∧
      (before ++ '_' :: after).rdropWhile (· ≠ '_') = before ++ ['_'] := by
  have others : ∀ character ∈ after.reverse,
      decide (character ≠ '_') = true := by
    intro character characterMem
    refine decide_eq_true fun underscore => notMem ?_
    exact underscore ▸ List.mem_reverse.mp characterMem
  have reversed : (before ++ '_' :: after).reverse =
      after.reverse ++ '_' :: before.reverse := by
    simp
  constructor
  · rw [List.rtakeWhile, reversed, List.takeWhile_append_of_pos others]
    simp
  · rw [List.rdropWhile, reversed, List.dropWhile_append_of_pos others]
    simp

theorem ofKey?_of_splitKey? {key field operator : String}
    (splits : splitKey? key = some (field, operator)) (values : List String) :
    ofKey? key values =
      if field ≠ "" ∧ operator ∈ Operator.vocabulary then
        some ⟨field, operator, values⟩
      else none := by
  obtain ⟨rfl, notMem⟩ := splitKey?_eq_some_iff.mp splits
  have characters : (field ++ "_" ++ operator).toList =
      field.toList ++ '_' :: operator.toList := by
    simp
  obtain ⟨operatorEq, fieldEq⟩ := around_last_underscore field.toList notMem
  simp only [ofKey?, characters, operatorEq, fieldEq, List.dropLast_concat,
    String.ofList_toList]

theorem ofKey?_of_splitKey?_eq_none {key : String}
    (unsplit : splitKey? key = none) (values : List String) :
    ofKey? key values = none := by
  have notMem : '_' ∉ key.toList :=
    splitLast?_eq_none_iff.mp (Option.map_eq_none_iff.mp unsplit)
  have fieldEq : key.toList.rdropWhile (· ≠ '_') = [] := by
    refine List.rdropWhile_eq_nil_iff.mpr fun character characterMem => ?_
    exact decide_eq_true fun underscore => notMem (underscore ▸ characterMem)
  simp only [ofKey?, fieldEq, List.dropLast_nil]
  exact if_neg fun kept => kept.1 rfl

theorem ofParameter?_eq_ofKey? {key : String} {values : List String}
    (notReserved : key ∉ Query.reservedKeys) (nonempty : values ≠ []) :
    ofParameter? key values = ofKey? key values := by
  have notReservedKey : Query.isReserved key = false := by
    simpa [Query.isReserved] using notReserved
  rw [ofParameter?, notReservedKey]
  cases splits : splitKey? key with
  | none => simp [ofKey?_of_splitKey?_eq_none splits]
  | some parts =>
      obtain ⟨field, operator⟩ := parts
      have validIff : isValid ⟨field, operator, values⟩ = true ↔
          field ≠ "" ∧ operator ∈ Operator.vocabulary := by
        simp [isValid_iff, nonempty, and_comm]
      simp [ofKey?_of_splitKey? splits, validIff]

theorem of_mem_merged {conditions : List Condition}
    {parameter : String × List String}
    (parameterMem : parameter ∈ merged conditions) :
    parameter.1 ∉ Query.reservedKeys ∧ parameter.2 ≠ [] := by
  obtain ⟨shared, sharedMem, rfl⟩ := List.mem_map.mp parameterMem
  obtain ⟨condition, writtenMem, keyEq⟩ :=
    List.mem_map.mp (List.mem_eraseDups.mp sharedMem)
  constructor
  · exact keyEq ▸ condition.key_notMem_reservedKeys
  · intro isEmpty
    have valuesEmpty := List.flatMap_eq_nil_iff.mp isEmpty condition
      (List.mem_filter.mpr ⟨writtenMem, by simpa using keyEq⟩)
    simp [valuesEmpty] at writtenMem

end Condition

namespace SortEntry

/-- What the text of an entry is read as: an ascending entry whose field starts
with a dash is taken for a descending one. -/
def reread (entry : SortEntry) : SortEntry :=
  match entry.descending, entry.field.toList with
  | false, '-' :: rest => ⟨String.ofList rest, true⟩
  | _, _ => entry

theorem ofText_text_eq_reread (entry : SortEntry) :
    ofText entry.text = entry.reread := by
  obtain ⟨field, descending⟩ := entry
  cases descending with
  | true => simp [text, ofText, reread]
  | false =>
      have textEq : text ⟨field, false⟩ = field := rfl
      rw [textEq]
      cases characters : field.toList with
      | nil => simp [ofText, reread, characters]
      | cons first rest =>
          by_cases dashed : first = '-'
          · simp [ofText, reread, characters, dashed]
          · simp [ofText, reread, characters, dashed]

end SortEntry

namespace Query

theorem entries_ofPairs_conditionPairs (query : Query) :
    (Parameters.ofPairs query.conditionPairs).entries =
      Condition.merged query.conditions := by
  let written := query.conditions.filter fun condition => condition.values ≠ []
  let lists := written.map fun condition => (condition.key, condition.values)
  -- A condition without values has no pairs, and its key may not count either.
  have pairsEq : query.conditionPairs = Parameters.pairsOf lists := by
    rw [conditionPairs, ← Parameters.pairsOf_filter, List.filter_map]
    rfl
  have nonempty : ∀ entry ∈ lists, entry.2 ≠ [] := by
    intro entry entryMem
    obtain ⟨condition, writtenMem, rfl⟩ := List.mem_map.mp entryMem
    simpa using (List.mem_filter.mp writtenMem).2
  rw [pairsEq, Parameters.entries_ofPairs_pairsOf_joined nonempty]
  simp only [lists, List.map_map, List.filter_map, List.flatMap_map]
  rfl

theorem conditions_ofPairs_conditionPairs (query : Query) :
    (Parameters.ofPairs query.conditionPairs).conditions =
      (Condition.merged query.conditions).filterMap fun (key, values) =>
        Condition.ofKey? key values := by
  rw [Parameters.conditions, entries_ofPairs_conditionPairs]
  apply List.filterMap_congr
  intro parameter parameterMem
  obtain ⟨notReserved, nonempty⟩ := Condition.of_mem_merged parameterMem
  exact Condition.ofParameter?_eq_ofKey? notReserved nonempty

/-- A written query is always read back: its conditions are merged by their keys
and kept as far as the keys spell them, and its sort entries are taken by their
texts. -/
theorem ofQueryString_toQueryString_eq_ok_merged (query : Query) :
    ofQueryString query.toQueryString =
      .ok { query with
        conditions := (Condition.merged query.conditions).filterMap
          fun (key, values) => Condition.ofKey? key values
        sort := query.sort.map SortEntry.reread } := by
  have sortEq : (query.sort.map fun entry => SortEntry.ofText entry.text) =
      query.sort.map SortEntry.reread :=
    List.map_congr_left fun entry _ => entry.ofText_text_eq_reread
  rw [ofQueryString_toQueryString, reread, conditions_ofPairs_conditionPairs,
    sortEq]

/-- An operator with an underscore gives its condition the key of another one, and
both are read as the other.  A condition without values is lost, and so is one
whose operator is not known. -/
example :
    (Condition.merged
        [⟨"a", "b_eq", ["1"]⟩, ⟨"c", "like", ["2"]⟩, ⟨"a_b", "eq", ["3", "4"]⟩,
          ⟨"d", "eq", []⟩]).filterMap
        (fun (key, values) => Condition.ofKey? key values) =
      [⟨"a_b", "eq", ["1", "3", "4"]⟩] := by
  decide

end Query

end FilterSql
