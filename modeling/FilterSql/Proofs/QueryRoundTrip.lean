import FilterSql.Proofs.QueryPairs
import Mathlib.Data.List.Basic

/-!
# Which queries survive writing and reading

Everything that the reader gives is expressible: its conditions are valid and
have distinct keys, and none of its ascending sort entries starts with a dash.
Conversely an expressible query reads back as itself.  Being expressible does not
depend on the order of the conditions, so a query that is not expressible is not
even read back in another order.
-/

namespace FilterSql

namespace SortEntry

/-- Whether the direction of an entry shows in its text: an ascending entry that
starts with a dash would be read as a descending one. -/
def IsPlain (entry : SortEntry) : Prop :=
  entry.descending = false → entry.field.toList.head? ≠ some '-'

instance (entry : SortEntry) : Decidable entry.IsPlain :=
  inferInstanceAs (Decidable (_ → _))

theorem isPlain_ofText (text : String) : (ofText text).IsPlain := by
  unfold ofText
  split
  case h_1 => simp [IsPlain]
  case h_2 notDashed =>
    intro _ startsWithDash
    obtain ⟨rest, textEq⟩ := List.head?_eq_some_iff.mp startsWithDash
    exact notDashed rest textEq

theorem ofText_text {entry : SortEntry} (plain : entry.IsPlain) :
    ofText entry.text = entry := by
  obtain ⟨field, descending⟩ := entry
  cases descending with
  | true => simp [text, ofText]
  | false =>
      have notDashed := plain rfl
      simp only [text, ofText]
      split
      case h_1 rest textEq =>
        have fieldEq : field.toList = '-' :: rest := textEq
        simp [fieldEq] at notDashed
      case h_2 => rfl

end SortEntry

namespace Query

/-- Whether a query string can describe a query. -/
structure IsExpressible (query : Query) : Prop where
  operatorsKnown : ∀ condition ∈ query.conditions,
    condition.operator ∈ Operator.vocabulary
  fieldsNonempty : ∀ condition ∈ query.conditions, condition.field ≠ ""
  valuesNonempty : ∀ condition ∈ query.conditions, condition.values ≠ []
  conditionsDistinct : (query.conditions.map fun condition =>
    (condition.field, condition.operator)).Nodup
  sortPlain : ∀ entry ∈ query.sort, entry.IsPlain

namespace IsExpressible

variable {query : Query}

theorem isValid (expressible : query.IsExpressible) {condition : Condition}
    (conditionMem : condition ∈ query.conditions) : condition.isValid = true :=
  Condition.isValid_iff.mpr
    ⟨expressible.operatorsKnown condition conditionMem,
      expressible.fieldsNonempty condition conditionMem,
      expressible.valuesNonempty condition conditionMem⟩

theorem keysDistinct (expressible : query.IsExpressible) :
    (query.conditions.map Condition.key).Nodup := by
  have distinct := expressible.conditionsDistinct
  rw [List.Nodup, List.pairwise_map] at distinct ⊢
  refine distinct.imp_of_mem ?_
  intro first second firstMem secondMem partsNe keyEq
  obtain ⟨fieldEq, operatorEq⟩ := Condition.eq_of_key_eq
    (expressible.isValid firstMem) (expressible.isValid secondMem) keyEq
  exact partsNe (by rw [fieldEq, operatorEq])

end IsExpressible

/-- The reader gives expressible queries only. -/
theorem isExpressible_of_ofParameters {parameters : Parameters} {query : Query}
    (read : ofParameters parameters = .ok query) : query.IsExpressible := by
  obtain ⟨conditionsEq, _, _, _, sortEq, _, _⟩ := ofParameters_eq_ok_iff.mp read
  have described : ∀ condition ∈ query.conditions,
      condition.isValid = true ∧
        (condition.key, condition.values) ∈ parameters.entries := by
    intro condition conditionMem
    rw [← conditionsEq] at conditionMem
    obtain ⟨entry, entryMem, entryDescribes⟩ :=
      List.mem_filterMap.mp conditionMem
    obtain ⟨valid, keyEq, valuesEq⟩ :=
      Condition.ofParameter?_eq_some_iff.mp entryDescribes
    exact ⟨valid, by rw [keyEq, valuesEq]; exact entryMem⟩
  have keysDistinct : (query.conditions.map Condition.key).Nodup := by
    rw [← conditionsEq]
    exact parameters.keys_conditions_sublist.nodup parameters.values.keysDistinct
  refine ⟨?_, ?_, ?_, ?_, ?_⟩
  · intro condition conditionMem
    exact (Condition.isValid_iff.mp (described condition conditionMem).1).1
  · intro condition conditionMem
    exact (Condition.isValid_iff.mp (described condition conditionMem).1).2.1
  · intro condition conditionMem
    exact (Condition.isValid_iff.mp (described condition conditionMem).1).2.2
  · rw [List.Nodup, List.pairwise_map] at keysDistinct ⊢
    refine keysDistinct.imp ?_
    intro first second keyNe partsEq
    obtain ⟨fieldEq, operatorEq⟩ := Prod.mk.inj partsEq
    exact keyNe (by rw [Condition.key, Condition.key, fieldEq, operatorEq])
  · intro entry entryMem
    rw [← sortEq] at entryMem
    obtain ⟨text, _, rfl⟩ := List.mem_map.mp entryMem
    exact SortEntry.isPlain_ofText text

theorem isExpressible_reread (query : Query) : query.reread.IsExpressible :=
  isExpressible_of_ofParameters query.ofParameters_ofPairs_pairs

theorem reread_eq_self {query : Query} (expressible : query.IsExpressible) :
    query.reread = query := by
  have entriesEq : (Parameters.ofPairs query.conditionPairs).entries =
      query.conditions.map fun condition => (condition.key, condition.values) := by
    apply Parameters.entries_ofPairs_pairsOf
    · rw [List.map_map]
      exact expressible.keysDistinct
    · intro entry entryMem
      obtain ⟨condition, conditionMem, rfl⟩ := List.mem_map.mp entryMem
      exact expressible.valuesNonempty condition conditionMem
  have conditionsEq : (Parameters.ofPairs query.conditionPairs).conditions =
      query.conditions := by
    rw [Parameters.conditions, entriesEq, List.filterMap_map]
    calc query.conditions.filterMap _
        = query.conditions.filterMap some := by
          apply List.filterMap_congr
          intro condition conditionMem
          exact Condition.ofParameter?_eq_some_iff.mpr
            ⟨expressible.isValid conditionMem, rfl, rfl⟩
      _ = query.conditions := List.filterMap_some
  have sortEq : (query.sort.map fun entry => SortEntry.ofText entry.text) =
      query.sort := by
    calc (query.sort.map fun entry => SortEntry.ofText entry.text)
        = query.sort.map id := by
          apply List.map_congr_left
          intro entry entryMem
          exact SortEntry.ofText_text (expressible.sortPlain entry entryMem)
      _ = query.sort := List.map_id query.sort
  rw [reread, conditionsEq, sortEq]

/-- Two queries that differ at most in the order of their conditions. -/
structure IsReorderingOf (first second : Query) : Prop where
  conditions : first.conditions.Perm second.conditions
  others : { first with conditions := second.conditions } = second

theorem IsReorderingOf.isExpressible {first second : Query}
    (reordering : first.IsReorderingOf second)
    (expressible : first.IsExpressible) : second.IsExpressible := by
  have sortEq := congrArg Query.sort reordering.others
  dsimp only at sortEq
  have memIff {condition : Condition} :
      condition ∈ second.conditions ↔ condition ∈ first.conditions :=
    reordering.conditions.mem_iff.symm
  refine ⟨?_, ?_, ?_, ?_, ?_⟩
  · intro condition conditionMem
    exact expressible.operatorsKnown condition (memIff.mp conditionMem)
  · intro condition conditionMem
    exact expressible.fieldsNonempty condition (memIff.mp conditionMem)
  · intro condition conditionMem
    exact expressible.valuesNonempty condition (memIff.mp conditionMem)
  · exact ((reordering.conditions.map _).nodup_iff).mp
      expressible.conditionsDistinct
  · exact sortEq ▸ expressible.sortPlain

/-- What is read from a query string is read again from what it is written
as. -/
theorem ofQueryString_toQueryString_of_ofQueryString {text : String}
    {query : Query} (read : ofQueryString text = .ok query) :
    ofQueryString query.toQueryString = .ok query := by
  have expressible : query.IsExpressible := isExpressible_of_ofParameters read
  rw [ofQueryString_toQueryString, reread_eq_self expressible]

/-- Repeated keys with several underscores, a signed number, a doubled dash and
a malformed percent sign. -/
theorem ofQueryString_toQueryString_of_mixed_text :
    ∃ query, ofQueryString
          "?a_b_in=%C3%A9&sort=--x&limit=%2B05&a_b_in=1%&_eq=z&sort=y&skip=-7" =
        .ok query ∧
      query.conditions = [⟨"a_b", "in", ["é", "1%"]⟩] ∧
      ofQueryString query.toQueryString = .ok query := by
  have read : ofQueryString
        "?a_b_in=%C3%A9&sort=--x&limit=%2B05&a_b_in=1%&_eq=z&sort=y&skip=-7" =
      .ok ⟨[⟨"a_b", "in", ["é", "1%"]⟩], [], [], [],
        [⟨"-x", true⟩, ⟨"y", false⟩], 5, -7⟩ := by
    rfl
  exact ⟨_, read, rfl, ofQueryString_toQueryString_of_ofQueryString read⟩

/-- A query reads back from what it is written as exactly when it is
expressible; otherwise another query is read, in whatever order the conditions
are taken. -/
theorem ofQueryString_toQueryString_eq_self_iff (query : Query) :
    (ofQueryString query.toQueryString = .ok query ↔ query.IsExpressible) ∧
      (¬ query.IsExpressible → ∃ again,
        ofQueryString query.toQueryString = .ok again ∧
          ¬ again.IsReorderingOf query) := by
  rw [ofQueryString_toQueryString]
  refine ⟨⟨?_, ?_⟩, ?_⟩
  · intro readsBack
    exact Except.ok.inj readsBack ▸ query.isExpressible_reread
  · intro expressible
    rw [reread_eq_self expressible]
  · intro notExpressible
    refine ⟨query.reread, rfl, ?_⟩
    intro reordering
    exact notExpressible (reordering.isExpressible query.isExpressible_reread)

end Query

end FilterSql
