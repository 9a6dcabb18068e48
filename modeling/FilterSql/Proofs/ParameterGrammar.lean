import FilterSql.Proofs.QueryRoundTrip
import Mathlib.Data.List.Nodup

/-!
# The grammar of parameters

A parameter describes a condition when its key is a field, an underscore and an
operator, whichever underscore that is, and when it has a value.  The reader
finds the operator after the last underscore of the key; since no operator holds
an underscore it finds exactly these conditions, each of them once and in the
order of the keys.

Besides, the reader takes the values of four keys as they are and the first
values of two more.  It looks at nothing else.
-/

namespace FilterSql

namespace Parameters

theorem mem_conditions_iff {parameters : Parameters} {condition : Condition} :
    condition ∈ parameters.conditions ↔
      condition.operator ∈ Operator.vocabulary ∧ condition.field ≠ "" ∧
        condition.values ≠ [] ∧
        parameters.getAll? condition.key = some condition.values := by
  have entryIff : parameters.getAll? condition.key = some condition.values ↔
      (condition.key, condition.values) ∈ parameters.entries :=
    OrderedMap.get?_eq_some_iff
  simp only [conditions, List.mem_filterMap, Condition.ofParameter?_eq_some_iff,
    Condition.isValid_iff, entryIff]
  constructor
  · rintro ⟨entry, entryMem, ⟨known, named, nonempty⟩, keyEq, valuesEq⟩
    refine ⟨known, named, nonempty, ?_⟩
    rwa [keyEq, valuesEq]
  · rintro ⟨known, named, nonempty, entryMem⟩
    exact ⟨_, entryMem, ⟨known, named, nonempty⟩, rfl, rfl⟩

/-- Whether an entry describes a condition: its key is a field, an underscore and
an operator, and it has a value. -/
def DescribesCondition (entry : String × List String) : Prop :=
  ∃ field, ∃ operator ∈ Operator.vocabulary,
    field ≠ "" ∧ entry.1 = field ++ "_" ++ operator ∧ entry.2 ≠ []

theorem describesCondition_iff {entry : String × List String} :
    DescribesCondition entry ↔
      (Condition.ofParameter? entry.1 entry.2).isSome = true := by
  rw [Option.isSome_iff_exists]
  constructor
  · rintro ⟨field, operator, known, named, keyEq, nonempty⟩
    refine ⟨⟨field, operator, entry.2⟩, ?_⟩
    exact Condition.ofParameter?_eq_some_iff.mpr
      ⟨Condition.isValid_iff.mpr ⟨known, named, nonempty⟩, keyEq.symm, rfl⟩
  · rintro ⟨condition, described⟩
    obtain ⟨valid, keyEq, valuesEq⟩ :=
      Condition.ofParameter?_eq_some_iff.mp described
    obtain ⟨known, named, nonempty⟩ := Condition.isValid_iff.mp valid
    exact ⟨condition.field, condition.operator, known, named, keyEq.symm,
      valuesEq ▸ nonempty⟩

instance : DecidablePred DescribesCondition :=
  fun _ => decidable_of_iff _ describesCondition_iff.symm

theorem conditions_eq_filterMap_filter (parameters : Parameters) :
    parameters.conditions =
      (parameters.entries.filter DescribesCondition).filterMap
        fun (key, values) => Condition.ofParameter? key values := by
  rw [conditions, List.filterMap_filter]
  refine List.filterMap_congr fun entry _ => ?_
  by_cases describes : DescribesCondition entry
  · simp [describes]
  · have undescribed : Condition.ofParameter? entry.1 entry.2 = none := by
      simpa [describesCondition_iff] using describes
    simp [describes, undescribed]

/-- Whether two parameter sets have the same of everything that the grammar
speaks of: the entries that describe conditions, the values of the four keys
that are taken as they are, and the first values of the numbers. -/
structure ReadAlike (first second : Parameters) : Prop where
  conditions : first.entries.filter DescribesCondition =
    second.entries.filter DescribesCondition
  relations : first.getAll "with" = second.getAll "with"
  group : first.getAll "group" = second.getAll "group"
  accumulator : first.getAll "accumulator" = second.getAll "accumulator"
  sort : first.getAll "sort" = second.getAll "sort"
  limit : first.first? "limit" = second.first? "limit"
  skip : first.first? "skip" = second.first? "skip"

theorem number_eq_of_first?_eq {first second : Parameters} {key : String}
    (same : first.first? key = second.first? key) :
    first.number key = second.number key := by
  rw [number, number, same]

end Parameters

namespace Query

theorem ofParameters_eq_of_readAlike {first second : Parameters}
    (alike : first.ReadAlike second) :
    ofParameters first = ofParameters second := by
  have limitEq : first.number limitKey = second.number limitKey :=
    Parameters.number_eq_of_first?_eq alike.limit
  have skipEq : first.number skipKey = second.number skipKey :=
    Parameters.number_eq_of_first?_eq alike.skip
  have conditionsEq : first.conditions = second.conditions := by
    rw [Parameters.conditions_eq_filterMap_filter, alike.conditions,
      ← Parameters.conditions_eq_filterMap_filter]
  have relationsEq : first.getAll relationsKey = second.getAll relationsKey :=
    alike.relations
  have groupEq : first.getAll groupKey = second.getAll groupKey := alike.group
  have accumulatorEq :
      first.getAll accumulatorKey = second.getAll accumulatorKey :=
    alike.accumulator
  have sortEq : first.getAll sortKey = second.getAll sortKey := alike.sort
  rw [ofParameters, ofParameters, limitEq, skipEq, conditionsEq, relationsEq,
    groupEq, accumulatorEq, sortEq]

/-- The reader gives exactly what the grammar describes, and nothing outside the
grammar changes what it gives or whether it fails. -/
theorem ofParameters_reads_grammar (parameters : Parameters) :
    (∀ query, ofParameters parameters = .ok query →
        (∀ condition, condition ∈ query.conditions ↔
          condition.operator ∈
              ["isnull", "eq", "ne", "gt", "lt", "gte", "lte", "contain",
                "ncontain", "contains", "ncontains", "in", "nin"] ∧
            condition.field ≠ "" ∧ condition.values ≠ [] ∧
            parameters.getAll?
                (condition.field ++ "_" ++ condition.operator) =
              some condition.values) ∧
          query.conditions.Nodup ∧
          (query.conditions.map fun condition =>
            (condition.field, condition.operator)).Nodup ∧
          (query.conditions.map fun condition =>
            condition.field ++ "_" ++ condition.operator).Sublist
              parameters.keys ∧
          query.relations = parameters.getAll "with" ∧
          query.group = parameters.getAll "group" ∧
          query.accumulator = parameters.getAll "accumulator" ∧
          query.sort = (parameters.getAll "sort").map SortEntry.ofText) ∧
      ∀ other, parameters.ReadAlike other →
        ofParameters parameters = ofParameters other := by
  constructor
  · intro query read
    obtain ⟨conditionsEq, relationsEq, groupEq, accumulatorEq, sortEq, _, _⟩ :=
      ofParameters_eq_ok_iff.mp read
    have distinct := (isExpressible_of_ofParameters read).conditionsDistinct
    refine ⟨?_, List.Nodup.of_map _ distinct, distinct, ?_, relationsEq.symm,
      groupEq.symm, accumulatorEq.symm, sortEq.symm⟩
    · intro condition
      rw [← conditionsEq]
      exact Parameters.mem_conditions_iff
    · rw [← conditionsEq]
      exact parameters.keys_conditions_sublist
  · exact fun _ alike => ofParameters_eq_of_readAlike alike

/-- Parameters in and outside the grammar, among them an operator without a
field, a key without a value and two further values of a number. -/
def crowdedParameters (limit : String) : Parameters :=
  .ofLists
    [("a_b_in", ["1", "2"]), ("x", ["?"]), ("limit", [limit, "y", "6"]),
      ("_eq", ["z"]), ("c_like", ["q"]), ("sort", ["-a", "b"]), ("d_eq", []),
      ("e__gt", ["3"])]

/-- What the grammar speaks of in these parameters, with the reserved keys in
front. -/
def spareParameters (limit : String) : Parameters :=
  .ofLists
    [("with", []), ("sort", ["-a", "b"]), ("limit", [limit]),
      ("a_b_in", ["1", "2"]), ("e__gt", ["3"])]

theorem readAlike_crowdedParameters (limit : String) :
    (crowdedParameters limit).ReadAlike (spareParameters limit) :=
  ⟨rfl, rfl, rfl, rfl, rfl, rfl, rfl⟩

theorem ofParameters_reads_grammar_of_crowdedParameters :
    (∃ query, ofParameters (crowdedParameters "5") = .ok query ∧
        ofParameters (spareParameters "5") = .ok query ∧
        ⟨"e_", "gt", ["3"]⟩ ∈ query.conditions ∧
        ⟨"d", "eq", []⟩ ∉ query.conditions ∧
        query.sort = [⟨"a", true⟩, ⟨"b", false⟩]) ∧
      ofParameters (spareParameters "-") =
        .error ⟨"limit", "-", .invalidDigit⟩ := by
  refine ⟨⟨_, rfl, ?_⟩, ?_⟩
  · obtain ⟨reads, ignores⟩ := ofParameters_reads_grammar (crowdedParameters "5")
    obtain ⟨memIff, _, _, _, _, _, _, sortEq⟩ := reads _ rfl
    refine ⟨?_, (memIff _).mpr (by decide), fun mem => ?_, sortEq⟩
    · exact (ignores _ (readAlike_crowdedParameters "5")).symm
    · exact ((memIff _).mp mem).2.2.1 rfl
  · obtain ⟨_, ignores⟩ := ofParameters_reads_grammar (crowdedParameters "-")
    exact (ignores _ (readAlike_crowdedParameters "-")).symm

end Query

end FilterSql
