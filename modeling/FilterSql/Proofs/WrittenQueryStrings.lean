import FilterSql.Proofs.QueryPairs

/-!
# Written query strings

The texts of a query may hold any characters, also the ones that separate pairs or
begin an escape.  The written query is in the alphabet of form-encoded text all
the same, and it is read as one pair for every value of a condition and for every
other part, each with its key and its value as they stand.  So no text can end its
own pair or begin another one.
-/

namespace FilterSql

namespace IntegerText

/-- Numbers are written in base ten, with a minus before negative ones. -/
theorem write_eq_toString (number : Int64) :
    write number = toString number.toInt := by
  rw [write]
  cases number.toInt with
  | ofNat magnitude => rfl
  | negSucc magnitude =>
      calc String.ofList (DecimalText.integer (.negSucc magnitude))
          = "-" ++ String.ofList (DecimalText.natural (magnitude + 1)) :=
            String.ofList_cons
        _ = toString (Int.negSucc magnitude) := rfl

end IntegerText

namespace Query

/-- A written query is in the alphabet of form-encoded text. -/
theorem all_isWritten_toQueryString (query : Query) :
    query.toQueryString.toList.all FormCoding.isWritten = true := by
  rw [toQueryString, String.toList_ofList, List.all_eq_true]
  exact fun _ characterMem => FormCoding.isWritten_of_mem_encodePairs characterMem

theorem numberPairs_eq (key : String) (number : Int64) :
    numberPairs key number =
      if number = 0 then [] else [(key, toString number.toInt)] := by
  rw [numberPairs, IntegerText.write_eq_toString]

/-- A written query injects no parameter, whatever characters its texts hold.  It
is in the alphabet of form-encoded text, does not begin with a question mark, and
is read as the pairs of the query in order: one for every value of every
condition, one for every other item, and one for each number that is not zero,
all of them with the very texts of the query. -/
theorem toQueryString_injects_nothing (query : Query) :
    query.toQueryString.toList.all FormCoding.isWritten = true ∧
    query.toQueryString.toList.head? ≠ some '?' ∧
    FormCoding.decodePairs
        (Parameters.dropQuestionMark query.toQueryString.toList) =
      (query.conditions.flatMap fun condition =>
          condition.values.map fun value =>
            (condition.field ++ "_" ++ condition.operator, value)) ++
        query.relations.map (fun relation => ("with", relation)) ++
        query.group.map (fun field => ("group", field)) ++
        query.accumulator.map (fun field => ("accumulator", field)) ++
        query.sort.map (fun entry =>
          ("sort", if entry.descending then "-" ++ entry.field else entry.field)) ++
        (if query.limit = 0 then [] else [("limit", toString query.limit.toInt)]) ++
        (if query.skip = 0 then [] else [("skip", toString query.skip.toInt)]) := by
  refine ⟨query.all_isWritten_toQueryString, query.head?_toQueryString_ne, ?_⟩
  rw [decodePairs_toQueryString, pairs, numberPairs_eq, numberPairs_eq]
  rfl

/-- Characters that separate or escape are written as bytes, also where a key
holds them. -/
example :
    toQueryString
        ⟨[⟨"a&b", "=?", ["%26", "é +"]⟩], [], [], [], [⟨"", true⟩], 0, -1⟩ =
      "a%26b_%3D%3F=%2526&a%26b_%3D%3F=%C3%A9+%2B&sort=-&skip=-1" := by
  decide +kernel

end Query

end FilterSql
