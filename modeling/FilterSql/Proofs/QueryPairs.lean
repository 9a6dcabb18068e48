import FilterSql.Proofs.ConditionKeys
import FilterSql.Proofs.FormAlphabet
import FilterSql.Proofs.IntegerReading
import FilterSql.Proofs.ParameterPairs

/-!
# The pairs of a query

The pairs of a query are those of its conditions and then those under reserved
keys.  Reading them back gives every reserved part again, except that an
ascending sort entry may change its direction, and the conditions that the pairs
of the conditions describe by themselves.

The main statement is that reading a written query never fails, and what it
gives.
-/

namespace FilterSql

namespace Query

/-- Reading fails on a number only, and otherwise gives each part by itself. -/
theorem ofParameters_eq_ok_iff {parameters : Parameters} {query : Query} :
    ofParameters parameters = .ok query ↔
      parameters.conditions = query.conditions ∧
        parameters.getAll relationsKey = query.relations ∧
        parameters.getAll groupKey = query.group ∧
        parameters.getAll accumulatorKey = query.accumulator ∧
        (parameters.getAll sortKey).map SortEntry.ofText = query.sort ∧
        parameters.number limitKey = .ok query.limit ∧
        parameters.number skipKey = .ok query.skip := by
  obtain ⟨conditions, relations, group, accumulator, sort, limit, skip⟩ := query
  cases limitRead : parameters.number limitKey with
  | error => simp [ofParameters, limitRead, bind, Except.bind]
  | ok limitValue =>
      cases skipRead : parameters.number skipKey with
      | error => simp [ofParameters, limitRead, skipRead, bind, Except.bind]
      | ok skipValue =>
          simp [ofParameters, limitRead, skipRead, bind, Except.bind, pure,
            Except.pure]

/-- The pairs of the conditions. -/
def conditionPairs (query : Query) : List (String × String) :=
  Parameters.pairsOf
    (query.conditions.map fun condition => (condition.key, condition.values))

/-- The pairs under reserved keys. -/
def reservedPairs (query : Query) : List (String × String) :=
  query.relations.map (fun relation => (relationsKey, relation)) ++
    query.group.map (fun field => (groupKey, field)) ++
    query.accumulator.map (fun field => (accumulatorKey, field)) ++
    query.sort.map (fun entry => (sortKey, entry.text)) ++
    numberPairs limitKey query.limit ++ numberPairs skipKey query.skip

theorem pairs_eq (query : Query) :
    query.pairs = query.conditionPairs ++ query.reservedPairs := by
  simp [pairs, conditionPairs, reservedPairs, Parameters.pairsOf,
    List.flatMap_map]

theorem fst_notMem_reservedKeys_of_mem_conditionPairs {query : Query}
    {pair : String × String} (pairMem : pair ∈ query.conditionPairs) :
    pair.1 ∉ reservedKeys := by
  obtain ⟨entry, entryMem, keyEq⟩ :=
    List.mem_map.mp (Parameters.fst_mem_of_mem_pairsOf pairMem)
  obtain ⟨condition, _, rfl⟩ := List.mem_map.mp entryMem
  exact keyEq ▸ condition.key_notMem_reservedKeys

theorem fst_mem_reservedKeys_of_mem_reservedPairs {query : Query}
    {pair : String × String} (pairMem : pair ∈ query.reservedPairs) :
    pair.1 ∈ reservedKeys := by
  have numberKey : ∀ (key : String) (number : Int64),
      pair ∈ numberPairs key number → pair.1 = key := by
    intro key number numberMem
    unfold numberPairs at numberMem
    split at numberMem
    · exact absurd numberMem List.not_mem_nil
    · rw [List.mem_singleton.mp numberMem]
  simp only [reservedPairs, List.mem_append, List.mem_map] at pairMem
  rcases pairMem with ((((⟨_, _, rfl⟩ | ⟨_, _, rfl⟩) | ⟨_, _, rfl⟩) |
    ⟨_, _, rfl⟩) | limitMem) | skipMem
  · simp [reservedKeys]
  · simp [reservedKeys]
  · simp [reservedKeys]
  · simp [reservedKeys]
  · simp [numberKey _ _ limitMem, reservedKeys]
  · simp [numberKey _ _ skipMem, reservedKeys]

theorem getAll_ofPairs_pairs (query : Query) {key : String}
    (reserved : key ∈ reservedKeys) :
    (Parameters.ofPairs query.pairs).getAll key =
      Parameters.valuesUnder key query.reservedPairs := by
  have conditionsLack : key ∉ query.conditionPairs.map Prod.fst := by
    intro keyMem
    obtain ⟨pair, pairMem, rfl⟩ := List.mem_map.mp keyMem
    exact fst_notMem_reservedKeys_of_mem_conditionPairs pairMem reserved
  rw [Parameters.getAll_ofPairs, pairs_eq, Parameters.valuesUnder_append,
    Parameters.valuesUnder_eq_nil conditionsLack, List.nil_append]

theorem valuesUnder_numberPairs (key name : String) (number : Int64) :
    Parameters.valuesUnder key (numberPairs name number) =
      if name = key then (numberPairs name number).map Prod.snd else [] := by
  by_cases isZero : number = 0
  · simp [numberPairs, isZero]
  · by_cases nameEq : name = key
    · simp [numberPairs, isZero, nameEq, Parameters.valuesUnder]
    · simp [numberPairs, isZero, nameEq, Parameters.valuesUnder]

end Query

namespace Parameters

theorem number_of_getAll_eq {parameters : Parameters} {key : String}
    {number : Int64}
    (written : parameters.getAll key =
      (Query.numberPairs key number).map Prod.snd) :
    parameters.number key = .ok number := by
  by_cases isZero : number = 0
  · simp [Parameters.number, first?, written, Query.numberPairs, isZero]
  · have firstEq : parameters.first? key = some (IntegerText.write number) := by
      simp [first?, written, Query.numberPairs, isZero]
    simp only [Parameters.number, firstEq, IntegerText.write_ne_empty,
      IntegerText.read_write]
    rfl

end Parameters

namespace Query

theorem conditions_ofPairs_pairs (query : Query) :
    (Parameters.ofPairs query.pairs).conditions =
      (Parameters.ofPairs query.conditionPairs).conditions := by
  have disjoint : ∀ pair ∈ query.reservedPairs,
      pair.1 ∉ query.conditionPairs.map Prod.fst := by
    intro pair pairMem keyMem
    obtain ⟨other, otherMem, keyEq⟩ := List.mem_map.mp keyMem
    refine fst_notMem_reservedKeys_of_mem_conditionPairs otherMem ?_
    exact keyEq ▸ fst_mem_reservedKeys_of_mem_reservedPairs pairMem
  have undescribed : (Parameters.ofPairs query.reservedPairs).conditions = [] := by
    rw [Parameters.conditions, List.filterMap_eq_nil_iff]
    intro entry entryMem
    have keyMem := (Parameters.mem_keys_ofPairs entry.1 query.reservedPairs).mp
      (List.mem_map_of_mem entryMem)
    obtain ⟨pair, pairMem, keyEq⟩ := List.mem_map.mp keyMem
    exact Condition.ofParameter?_of_mem_reservedKeys
      (keyEq ▸ fst_mem_reservedKeys_of_mem_reservedPairs pairMem) entry.2
  calc (Parameters.ofPairs query.pairs).conditions
      = (Parameters.ofPairs query.conditionPairs).conditions ++
          (Parameters.ofPairs query.reservedPairs).conditions := by
        rw [pairs_eq, Parameters.conditions,
          Parameters.entries_ofPairs_append disjoint, List.filterMap_append]
        rfl
    _ = (Parameters.ofPairs query.conditionPairs).conditions := by
        rw [undescribed, List.append_nil]

/-- What a query becomes when it is written and read back. -/
def reread (query : Query) : Query :=
  { query with
    conditions := (Parameters.ofPairs query.conditionPairs).conditions
    sort := query.sort.map fun entry => SortEntry.ofText entry.text }

theorem ofParameters_ofPairs_pairs (query : Query) :
    ofParameters (Parameters.ofPairs query.pairs) = .ok query.reread := by
  rw [ofParameters_eq_ok_iff]
  refine ⟨query.conditions_ofPairs_pairs, ?_, ?_, ?_, ?_,
    Parameters.number_of_getAll_eq ?_, Parameters.number_of_getAll_eq ?_⟩
  all_goals
    rw [getAll_ofPairs_pairs query (by simp [reservedKeys])]
    simp [reservedPairs, reread, Parameters.valuesUnder_map_self,
      Parameters.valuesUnder_map, valuesUnder_numberPairs, relationsKey,
      groupKey, accumulatorKey, sortKey, limitKey, skipKey, Function.comp_def]

/-- A written query does not begin with a question mark. -/
theorem head?_toQueryString_ne (query : Query) :
    query.toQueryString.toList.head? ≠ some '?' := by
  intro startsEq
  have mem := List.mem_of_head? startsEq
  rw [toQueryString, String.toList_ofList] at mem
  exact FormCoding.questionMark_notMem_encodePairs query.pairs mem

/-- The pairs of a query are what is read from the written query. -/
theorem decodePairs_toQueryString (query : Query) :
    FormCoding.decodePairs
        (Parameters.dropQuestionMark query.toQueryString.toList) =
      query.pairs := by
  rw [Parameters.dropQuestionMark_eq_self query.head?_toQueryString_ne,
    toQueryString, String.toList_ofList, FormCoding.decodePairs_encodePairs]

theorem parameters_toQueryString (query : Query) :
    Parameters.ofQueryString query.toQueryString =
      Parameters.ofPairs query.pairs := by
  rw [Parameters.ofQueryString, decodePairs_toQueryString]

/-- Reading a written query never fails. -/
theorem ofQueryString_toQueryString (query : Query) :
    ofQueryString query.toQueryString = .ok query.reread := by
  rw [ofQueryString, parameters_toQueryString, ofParameters_ofPairs_pairs]

end Query

end FilterSql
