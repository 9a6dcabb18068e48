import FilterSql.Parameters
import Mathlib.Data.List.Induction

/-!
# Parameters built from pairs

Appending pairs one after another gathers the values of each key.  The keys stand
in the order of their first appearance, and the values under a key are those of
its pairs, in order.  Hence nonempty lists with one key are joined where the first
of them stands.  Pairs whose keys are new form a tail of their own, so that a list
of parameters with distinct keys and nonempty lists is recovered from its pairs.
-/

namespace FilterSql

namespace Parameters

/-- The values of the pairs with a given key, in order. -/
def valuesUnder (key : String) (pairs : List (String × String)) : List String :=
  (pairs.filter fun pair => pair.1 = key).map Prod.snd

@[simp]
theorem valuesUnder_nil (key : String) : valuesUnder key [] = [] :=
  rfl

@[simp]
theorem valuesUnder_append (key : String)
    (first second : List (String × String)) :
    valuesUnder key (first ++ second) =
      valuesUnder key first ++ valuesUnder key second := by
  simp [valuesUnder]

theorem valuesUnder_eq_nil {key : String} {pairs : List (String × String)}
    (notMem : key ∉ pairs.map Prod.fst) : valuesUnder key pairs = [] := by
  rw [valuesUnder, List.map_eq_nil_iff, List.filter_eq_nil_iff]
  intro pair pairMem
  have keyNe : pair.1 ≠ key := fun keyEq =>
    notMem (keyEq ▸ List.mem_map_of_mem pairMem)
  simpa using keyNe

theorem valuesUnder_map {α : Type} (key name : String) (value : α → String)
    (items : List α) :
    valuesUnder key (items.map fun item => (name, value item)) =
      if name = key then items.map value else [] := by
  have filterEq : (items.map fun item => (name, value item)).filter
      (fun pair => pair.1 = key) =
        if name = key then items.map fun item => (name, value item) else [] := by
    by_cases nameEq : name = key
    · simp [nameEq]
    · simp [nameEq]
  rw [valuesUnder, filterEq]
  split
  · simp
  · rfl

theorem valuesUnder_map_self (key name : String) (values : List String) :
    valuesUnder key (values.map fun value => (name, value)) =
      if name = key then values else [] := by
  simpa using valuesUnder_map key name id values

@[simp]
theorem appendAll_nil (parameters : Parameters) :
    parameters.appendAll [] = parameters :=
  rfl

@[simp]
theorem appendAll_cons (parameters : Parameters) (pair : String × String)
    (pairs : List (String × String)) :
    parameters.appendAll (pair :: pairs) =
      (parameters.append pair.1 pair.2).appendAll pairs :=
  rfl

theorem appendAll_append (parameters : Parameters)
    (first second : List (String × String)) :
    parameters.appendAll (first ++ second) =
      (parameters.appendAll first).appendAll second :=
  List.foldl_append

theorem ofPairs_concat (pairs : List (String × String))
    (pair : String × String) :
    ofPairs (pairs ++ [pair]) = (ofPairs pairs).append pair.1 pair.2 := by
  rw [ofPairs, appendAll_append, appendAll_cons, appendAll_nil, ← ofPairs]

theorem getAll_append (parameters : Parameters) (key value other : String) :
    (parameters.append key value).getAll other =
      parameters.getAll other ++ valuesUnder other [(key, value)] := by
  by_cases keyEq : key = other
  · subst keyEq
    simp [getAll, getAll?, append, valuesUnder]
  · have unchanged := parameters.values.get?_alter_of_ne (Ne.symm keyEq)
      fun values => values.getD [] ++ [value]
    simp [getAll, getAll?, append, unchanged, valuesUnder, keyEq]

theorem getAll_appendAll (parameters : Parameters) (key : String)
    (pairs : List (String × String)) :
    (parameters.appendAll pairs).getAll key =
      parameters.getAll key ++ valuesUnder key pairs := by
  induction pairs generalizing parameters with
  | nil => rw [appendAll_nil, valuesUnder_nil, List.append_nil]
  | cons pair pairs ih =>
      rw [appendAll_cons, ih, getAll_append, List.append_assoc,
        ← valuesUnder_append, List.singleton_append]

theorem getAll_ofPairs (key : String) (pairs : List (String × String)) :
    (ofPairs pairs).getAll key = valuesUnder key pairs :=
  getAll_appendAll empty key pairs

/-- The keys of parameters, in the order of their first appearance. -/
def keys (parameters : Parameters) : List String :=
  parameters.entries.map Prod.fst

theorem keys_append (parameters : Parameters) (key value : String) :
    (parameters.append key value).keys =
      if key ∈ parameters.keys then parameters.keys
      else parameters.keys ++ [key] :=
  parameters.values.keys_alter key _

/-- An item at the end of a list is a repetition or is listed last. -/
theorem eraseDups_concat (items : List String) (item : String) :
    (items ++ [item]).eraseDups =
      if item ∈ items then items.eraseDups else items.eraseDups ++ [item] := by
  rw [List.eraseDups_append]
  split
  case isTrue itemMem => simp [List.removeAll, itemMem]
  case isFalse itemNotMem =>
    simp [List.removeAll, itemNotMem, List.eraseDups_cons]

/-- The keys are those of the pairs, in the order of their first appearance. -/
theorem keys_ofPairs (pairs : List (String × String)) :
    (ofPairs pairs).keys = (pairs.map Prod.fst).eraseDups := by
  induction pairs using List.reverseRecOn with
  | nil => rfl
  | append_singleton pairs pair ih =>
      rw [ofPairs_concat, keys_append, ih, List.map_append, List.map_singleton,
        eraseDups_concat]
      simp only [List.mem_eraseDups]

theorem mem_keys_ofPairs (key : String) (pairs : List (String × String)) :
    key ∈ (ofPairs pairs).keys ↔ key ∈ pairs.map Prod.fst := by
  rw [keys_ofPairs, List.mem_eraseDups]

theorem entries_eq_map_keys (parameters : Parameters) :
    parameters.entries =
      parameters.keys.map fun key => (key, parameters.getAll key) := by
  have listed : ∀ entry ∈ parameters.entries,
      (entry.1, parameters.getAll entry.1) = entry := by
    intro entry entryMem
    have found : parameters.getAll? entry.1 = some entry.2 :=
      OrderedMap.get?_eq_some_iff.mpr entryMem
    rw [getAll, found, Option.getD_some]
  rw [keys, List.map_map]
  exact (List.map_id _).symm.trans
    (List.map_congr_left fun entry entryMem => (listed entry entryMem).symm)

/-- Every key has the values of its pairs, and stands where it first appears. -/
theorem entries_ofPairs (pairs : List (String × String)) :
    (ofPairs pairs).entries = (pairs.map Prod.fst).eraseDups.map fun key =>
      (key, valuesUnder key pairs) := by
  rw [entries_eq_map_keys, keys_ofPairs]
  simp only [getAll_ofPairs]

theorem entries_append (parameters : Parameters) (key value : String) :
    (parameters.append key value).entries =
      OrderedMap.alterEntries key (fun values => values.getD [] ++ [value])
        parameters.entries :=
  rfl

/-- Pairs whose keys avoid the front of the entries leave the front as it
is. -/
theorem entries_appendAll_of_notMem {front : List (String × List String)}
    {parameters rest : Parameters} {pairs : List (String × String)}
    (split : parameters.entries = front ++ rest.entries)
    (avoided : ∀ pair ∈ pairs, pair.1 ∉ front.map Prod.fst) :
    (parameters.appendAll pairs).entries =
      front ++ (rest.appendAll pairs).entries := by
  induction pairs generalizing parameters rest with
  | nil => exact split
  | cons pair pairs ih =>
      refine ih ?_ fun other otherMem => avoided other (by simp [otherMem])
      rw [entries_append, entries_append, split]
      exact OrderedMap.alterEntries_append_of_notMem (avoided pair (by simp)) _ _

theorem entries_ofPairs_append {first second : List (String × String)}
    (disjoint : ∀ pair ∈ second, pair.1 ∉ first.map Prod.fst) :
    (ofPairs (first ++ second)).entries =
      (ofPairs first).entries ++ (ofPairs second).entries := by
  have split : (ofPairs first).entries =
      (ofPairs first).entries ++ empty.entries :=
    (List.append_nil _).symm
  rw [ofPairs, appendAll_append]
  apply entries_appendAll_of_notMem split
  intro pair pairMem keyMem
  exact disjoint pair pairMem ((mem_keys_ofPairs pair.1 first).mp keyMem)

theorem entries_ofPairs_map (key : String) {values : List String}
    (nonempty : values ≠ []) :
    (ofPairs (values.map fun value => (key, value))).entries =
      [(key, values)] := by
  have general : ∀ (rest : List String) (parameters : Parameters)
      (listed : List String), parameters.entries = [(key, listed)] →
      (parameters.appendAll (rest.map fun value => (key, value))).entries =
        [(key, listed ++ rest)] := by
    intro rest
    induction rest with
    | nil =>
        intro parameters listed entriesEq
        simpa using entriesEq
    | cons value rest ih =>
        intro parameters listed entriesEq
        have appended : (parameters.append key value).entries =
            [(key, listed ++ [value])] := by
          simp [entries_append, entriesEq, OrderedMap.alterEntries]
        simpa using ih (parameters.append key value) (listed ++ [value]) appended
  cases values with
  | nil => exact absurd rfl nonempty
  | cons value rest => exact general rest (empty.append key value) [value] rfl

/-- The pairs of a list of entries, one for every value. -/
def pairsOf (lists : List (String × List String)) : List (String × String) :=
  lists.flatMap fun entry => entry.2.map fun value => (entry.1, value)

theorem fst_mem_of_mem_pairsOf {lists : List (String × List String)}
    {pair : String × String} (pairMem : pair ∈ pairsOf lists) :
    pair.1 ∈ lists.map Prod.fst := by
  obtain ⟨entry, entryMem, valueMem⟩ := List.mem_flatMap.mp pairMem
  obtain ⟨value, _, rfl⟩ := List.mem_map.mp valueMem
  exact List.mem_map_of_mem entryMem

/-- An entry without values has no pairs. -/
theorem pairsOf_filter (lists : List (String × List String)) :
    pairsOf (lists.filter fun entry => entry.2 ≠ []) = pairsOf lists := by
  induction lists with
  | nil => rfl
  | cons entry lists ih =>
      rw [List.filter_cons]
      by_cases isEmpty : entry.2 = []
      · simpa [isEmpty, pairsOf] using ih
      · simpa [isEmpty, pairsOf] using ih

theorem eraseDups_append_replicate (items : List String) (item : String)
    (number : Nat) :
    (items ++ List.replicate (number + 1) item).eraseDups =
      (items ++ [item]).eraseDups := by
  induction number with
  | zero => rfl
  | succ number ih =>
      have repeated : item ∈ items ++ List.replicate (number + 1) item := by
        simp
      rw [List.replicate_succ', ← List.append_assoc, eraseDups_concat,
        if_pos repeated, ih]

/-- Nonempty lists give their keys to their pairs in one order. -/
theorem eraseDups_keys_pairsOf {lists : List (String × List String)}
    (nonempty : ∀ entry ∈ lists, entry.2 ≠ []) :
    ((pairsOf lists).map Prod.fst).eraseDups =
      (lists.map Prod.fst).eraseDups := by
  induction lists using List.reverseRecOn with
  | nil => rfl
  | append_singleton lists entry ih =>
      have keysEq := ih fun other otherMem =>
        nonempty other (List.mem_append_left _ otherMem)
      obtain ⟨number, lengthEq⟩ : ∃ number, entry.2.length = number + 1 :=
        Nat.exists_eq_succ_of_ne_zero fun isZero =>
          nonempty entry (by simp) (List.eq_nil_of_length_eq_zero isZero)
      have pairKeys : (pairsOf (lists ++ [entry])).map Prod.fst =
          (pairsOf lists).map Prod.fst ++
            List.replicate (number + 1) entry.1 := by
        simp [pairsOf, Function.comp_def, List.map_const', lengthEq]
      have memIff : entry.1 ∈ (pairsOf lists).map Prod.fst ↔
          entry.1 ∈ lists.map Prod.fst := by
        rw [← List.mem_eraseDups, keysEq, List.mem_eraseDups]
      rw [pairKeys, eraseDups_append_replicate, eraseDups_concat,
        List.map_append, List.map_singleton, eraseDups_concat, keysEq]
      simp only [memIff]

theorem valuesUnder_pairsOf (key : String)
    (lists : List (String × List String)) :
    valuesUnder key (pairsOf lists) =
      (lists.filter fun entry => entry.1 = key).flatMap Prod.snd := by
  induction lists with
  | nil => rfl
  | cons entry lists ih =>
      rw [pairsOf, List.flatMap_cons, valuesUnder_append, valuesUnder_map_self,
        ← pairsOf, ih, List.filter_cons]
      by_cases keyEq : entry.1 = key
      · simp [keyEq]
      · simp [keyEq]

/-- Nonempty lists with one key are joined where the first of them stands. -/
theorem entries_ofPairs_pairsOf_joined {lists : List (String × List String)}
    (nonempty : ∀ entry ∈ lists, entry.2 ≠ []) :
    (ofPairs (pairsOf lists)).entries =
      (lists.map Prod.fst).eraseDups.map fun key =>
        (key, (lists.filter fun entry => entry.1 = key).flatMap Prod.snd) := by
  rw [entries_ofPairs, eraseDups_keys_pairsOf nonempty]
  simp only [valuesUnder_pairsOf]

/-- Entries with distinct keys and nonempty lists are recovered from their
pairs. -/
theorem entries_ofPairs_pairsOf {lists : List (String × List String)}
    (distinct : (lists.map Prod.fst).Nodup)
    (nonempty : ∀ entry ∈ lists, entry.2 ≠ []) :
    (ofPairs (pairsOf lists)).entries = lists := by
  induction lists with
  | nil => rfl
  | cons entry lists ih =>
      obtain ⟨keyNotMem, restDistinct⟩ := List.nodup_cons.mp distinct
      have disjoint : ∀ pair ∈ pairsOf lists,
          pair.1 ∉ (entry.2.map fun value => (entry.1, value)).map Prod.fst := by
        intro pair pairMem keyMem
        obtain ⟨written, writtenMem, keyEq⟩ := List.mem_map.mp keyMem
        obtain ⟨value, _, rfl⟩ := List.mem_map.mp writtenMem
        exact keyNotMem (keyEq ▸ fst_mem_of_mem_pairsOf pairMem)
      calc (ofPairs (pairsOf (entry :: lists))).entries
          = (ofPairs (entry.2.map fun value => (entry.1, value))).entries ++
              (ofPairs (pairsOf lists)).entries :=
            entries_ofPairs_append disjoint
        _ = [entry] ++ lists := by
            rw [entries_ofPairs_map entry.1 (nonempty entry (by simp)),
              ih restDistinct fun other otherMem =>
                nonempty other (by simp [otherMem])]

end Parameters

end FilterSql
