import FilterSql.Proofs.ParameterMultimap

/-!
# Joined query strings

Two query strings that are joined by `&` are read one after the other.  Nothing is
read across the join, and a question mark is dropped at the very front only, so
the pairs of the whole are the pairs of its parts.

What the second part adds does not depend on how its pairs were interleaved: it
is enough to know the parameters that it has by itself.
-/

namespace FilterSql

namespace FormCoding

/-- The pairs on either side of a separator are read by themselves. -/
theorem decodePairs_append (first second : List Char) :
    decodePairs (first ++ '&' :: second) =
      decodePairs first ++ decodePairs second := by
  simp only [decodePairs, splitPieces_append, List.filter_append,
    List.map_append]

end FormCoding

namespace Parameters

theorem eq_of_entries_eq {first second : Parameters}
    (same : first.entries = second.entries) : first = second := by
  obtain ⟨⟨entries, _⟩⟩ := first
  obtain ⟨⟨others, _⟩⟩ := second
  obtain rfl : entries = others := same
  rfl

/-- Of the items that are added, only the first occurrences matter. -/
theorem eraseDups_append_eraseDups (items added : List String) :
    (items ++ added.eraseDups).eraseDups = (items ++ added).eraseDups := by
  induction added using List.reverseRecOn with
  | nil => rfl
  | append_singleton added item ih =>
      rw [eraseDups_concat]
      split
      case isTrue itemMem =>
        rw [ih, ← List.append_assoc, eraseDups_concat,
          if_pos (List.mem_append_right items itemMem)]
      case isFalse itemNotMem =>
        rw [← List.append_assoc, eraseDups_concat, ih, ← List.append_assoc,
          eraseDups_concat]
        simp only [List.mem_append, List.mem_eraseDups]

theorem appendAll_ofPairs (pairs added : List (String × String)) :
    (ofPairs pairs).appendAll added = ofPairs (pairs ++ added) :=
  (appendAll_append empty pairs added).symm

/-- Pairs that build the same parameters by themselves add the same to others. -/
theorem ofPairs_append_congr {first second : List (String × String)}
    (same : ofPairs first = ofPairs second) (pairs : List (String × String)) :
    ofPairs (pairs ++ first) = ofPairs (pairs ++ second) := by
  have keysEq :
      (first.map Prod.fst).eraseDups = (second.map Prod.fst).eraseDups := by
    rw [← keys_ofPairs, ← keys_ofPairs, same]
  have valuesEq : ∀ key, valuesUnder key first = valuesUnder key second := by
    intro key
    rw [← getAll_ofPairs, ← getAll_ofPairs, same]
  apply eq_of_entries_eq
  rw [entries_ofPairs, entries_ofPairs, List.map_append, List.map_append,
    ← eraseDups_append_eraseDups, keysEq, eraseDups_append_eraseDups]
  simp only [valuesUnder_append, valuesEq]

/-- Parameters that were built from pairs are built again from the pairs of their
entries. -/
theorem ofPairs_pairsOf_entries (pairs : List (String × String)) :
    ofPairs (pairsOf (ofPairs pairs).entries) = ofPairs pairs := by
  apply eq_of_entries_eq
  refine entries_ofPairs_pairsOf (ofPairs pairs).values.keysDistinct ?_
  exact fun entry entryMem => nonempty_of_mem_entries_ofPairs entryMem

theorem dropQuestionMark_append (first second : List Char) :
    dropQuestionMark (first ++ '&' :: second) =
      dropQuestionMark first ++ '&' :: second := by
  cases first with
  | nil => rfl
  | cons character rest =>
      rw [List.cons_append, dropQuestionMark.eq_def, dropQuestionMark.eq_def]
      split <;> simp_all

/-- The parameters of two joined query strings are those of the first one, to
which every entry of the second one adds its values in order. -/
theorem ofQueryString_join {second : String}
    (bare : second.toList.head? ≠ some '?') (first : String) :
    ofQueryString (first ++ "&" ++ second) =
      (ofQueryString first).appendAll
        (pairsOf (ofQueryString second).entries) := by
  have joined : (first ++ "&" ++ second).toList =
      first.toList ++ '&' :: second.toList := by
    simp
  calc ofQueryString (first ++ "&" ++ second)
      = ofPairs (FormCoding.decodePairs (dropQuestionMark first.toList) ++
          FormCoding.decodePairs second.toList) := by
        rw [ofQueryString, joined, dropQuestionMark_append,
          FormCoding.decodePairs_append]
    _ = ofPairs (FormCoding.decodePairs (dropQuestionMark first.toList) ++
          pairsOf (ofQueryString second).entries) := by
        rw [ofQueryString, dropQuestionMark_eq_self bare]
        exact ofPairs_append_congr (ofPairs_pairsOf_entries _).symm _
    _ = (ofQueryString first).appendAll
          (pairsOf (ofQueryString second).entries) :=
        (appendAll_ofPairs _ _).symm

/-- A character that is cut in two at the join: its first byte ends one part, and
the others begin a key of their own in the other part. -/
theorem ofQueryString_join_of_cut_character :
    "%A3o=1&&=&q=x&r&q=%".toList.head? ≠ some '?' ∧
      (ofQueryString "?q=S%C3&%A3o=1&&=&q=x&r&q=%").entries =
        [("q", ["S\uFFFD", "x", "%"]), ("\uFFFDo", ["1"]), ("", [""]),
          ("r", [""])] := by
  have bare : "%A3o=1&&=&q=x&r&q=%".toList.head? ≠ some '?' := by decide
  refine ⟨bare, ?_⟩
  exact (congrArg entries (ofQueryString_join bare "?q=S%C3")).trans rfl

/-- A question mark behind the join belongs to a key. -/
example : (ofQueryString ("a=1" ++ "&" ++ "?b=2")).keys = ["a", "?b"] := rfl

end Parameters

end FilterSql
