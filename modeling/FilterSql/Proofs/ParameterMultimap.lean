import FilterSql.Proofs.ParameterOrder
import Mathlib.Logic.Relation

/-!
# Parameters as a multimap

Parameters hold every pair that is appended to them, and nothing else.  What they
hold under a key is the history of that key, and the keys stand in the order in
which their histories began.

Equality asks for the histories of the keys only.  So it forgets how the histories
were interleaved, and forgets nothing more: the pairs of equal parameters can be
exchanged with their neighbours, as long as the keys differ, until one sequence
has become the other.
-/

namespace FilterSql

namespace OrderedMap

variable {α : Type}

/-- Two maps are equal exactly when every look-up gives the same. -/
theorem beq_iff_get?_eq [BEq α] [LawfulBEq α] {first second : OrderedMap α} :
    (first == second) = true ↔ ∀ key, first.get? key = second.get? key := by
  rw [beq_iff_perm_entries]
  constructor
  · exact get?_eq_of_perm_entries
  · intro same
    refine (List.perm_ext_iff_of_nodup first.nodup_entries
      second.nodup_entries).mpr ?_
    rintro ⟨key, value⟩
    rw [← get?_eq_some_iff, same, get?_eq_some_iff]

theorem get?_eq_none_iff {map : OrderedMap α} {key : String} :
    map.get? key = none ↔ key ∉ map.keys := by
  rw [get?, List.lookup_eq_none_iff, keys]
  constructor
  · intro absent keyMem
    obtain ⟨entry, entryMem, rfl⟩ := List.mem_map.mp keyMem
    simpa using absent entry entryMem
  · intro notMem entry entryMem
    simpa using fun keyEq : key = entry.1 =>
      notMem (keyEq ▸ List.mem_map_of_mem entryMem)

end OrderedMap

namespace Parameters

theorem beq_iff_getAll?_eq {first second : Parameters} :
    (first == second) = true ↔
      ∀ key, first.getAll? key = second.getAll? key :=
  OrderedMap.beq_iff_get?_eq

theorem valuesUnder_cons (key : String) (pair : String × String)
    (pairs : List (String × String)) :
    valuesUnder key (pair :: pairs) =
      if pair.1 = key then pair.2 :: valuesUnder key pairs
      else valuesUnder key pairs := by
  by_cases keyEq : pair.1 = key
  · simp [valuesUnder, keyEq]
  · simp [valuesUnder, keyEq]

theorem valuesUnder_eq_nil_iff {key : String} {pairs : List (String × String)} :
    valuesUnder key pairs = [] ↔ key ∉ pairs.map Prod.fst := by
  refine ⟨?_, valuesUnder_eq_nil⟩
  intro isNil keyMem
  obtain ⟨pair, pairMem, rfl⟩ := List.mem_map.mp keyMem
  have kept : pair ∈ pairs.filter fun other => other.1 = pair.1 := by
    simpa using pairMem
  rw [List.map_eq_nil_iff.mp isNil] at kept
  exact List.not_mem_nil kept

/-- How many values parameters hold under all their keys. -/
def valueCount (parameters : Parameters) : Nat :=
  (parameters.entries.map fun entry => entry.2.length).sum

theorem valueCount_append (parameters : Parameters) (key value : String) :
    (parameters.append key value).valueCount = parameters.valueCount + 1 := by
  rw [valueCount, valueCount, entries_append]
  induction parameters.entries with
  | nil => rfl
  | cons entry entries ih =>
      obtain ⟨name, values⟩ := entry
      by_cases nameEq : name = key
      · simp [OrderedMap.alterEntries, nameEq]
        omega
      · simp [OrderedMap.alterEntries, nameEq, ih]
        omega

theorem valueCount_appendAll (parameters : Parameters)
    (pairs : List (String × String)) :
    (parameters.appendAll pairs).valueCount =
      parameters.valueCount + pairs.length := by
  induction pairs generalizing parameters with
  | nil => rfl
  | cons pair pairs ih =>
      rw [appendAll_cons, ih, valueCount_append, List.length_cons]
      omega

/-- Parameters that are built from nothing by appending pairs one at a time. -/
inductive BuiltFrom : List (String × String) → Parameters → Prop where
  | empty : BuiltFrom [] .empty
  | append {pairs : List (String × String)} {parameters : Parameters}
      (built : BuiltFrom pairs parameters) (key value : String) :
      BuiltFrom (pairs ++ [(key, value)]) (parameters.append key value)

theorem builtFrom_ofPairs (pairs : List (String × String)) :
    BuiltFrom pairs (ofPairs pairs) := by
  induction pairs using List.reverseRecOn with
  | nil => exact .empty
  | append_singleton pairs pair ih =>
      obtain ⟨key, value⟩ := pair
      rw [ofPairs_concat]
      exact ih.append key value

theorem builtFrom_iff {pairs : List (String × String)}
    {parameters : Parameters} :
    BuiltFrom pairs parameters ↔ ofPairs pairs = parameters := by
  constructor
  · intro built
    induction built with
    | empty => rfl
    | append built key value ih => rw [ofPairs_concat, ih]
  · rintro rfl
    exact builtFrom_ofPairs pairs

/-- Whether parameters hold exactly the pairs of a sequence: the keys of the pairs
in the order of their first appearance, under each key its values in order, no key
without values, and no more and no fewer values than pairs. -/
structure Gathers (parameters : Parameters) (pairs : List (String × String)) :
    Prop where
  keysDistinct : parameters.keys.Nodup
  keysInOrder : parameters.keys = (pairs.map Prod.fst).eraseDups
  getAll?_eq : ∀ key, parameters.getAll? key =
    if key ∈ pairs.map Prod.fst then
      some ((pairs.filter fun pair => pair.1 = key).map Prod.snd)
    else none
  nonempty : ∀ entry ∈ parameters.entries, entry.2 ≠ []
  valueCount_eq : parameters.valueCount = pairs.length

theorem getAll?_ofPairs (key : String) (pairs : List (String × String)) :
    (ofPairs pairs).getAll? key =
      if key ∈ pairs.map Prod.fst then some (valuesUnder key pairs)
      else none := by
  have found := getAll_ofPairs key pairs
  have absentIff : (ofPairs pairs).getAll? key = none ↔
      key ∉ pairs.map Prod.fst := by
    rw [← mem_keys_ofPairs]
    exact OrderedMap.get?_eq_none_iff
  split
  case isTrue keyMem =>
    obtain ⟨values, isSome⟩ :=
      Option.ne_none_iff_exists'.mp fun isNone => absentIff.mp isNone keyMem
    rw [getAll, isSome, Option.getD_some] at found
    rw [isSome, found]
  case isFalse keyNotMem => exact absentIff.mpr keyNotMem

theorem nonempty_of_mem_entries_ofPairs {pairs : List (String × String)}
    {entry : String × List String} (entryMem : entry ∈ (ofPairs pairs).entries) :
    entry.2 ≠ [] := by
  rw [entries_ofPairs] at entryMem
  obtain ⟨key, keyMem, rfl⟩ := List.mem_map.mp entryMem
  exact fun isNil => valuesUnder_eq_nil_iff.mp isNil (List.mem_eraseDups.mp keyMem)

theorem gathers_ofPairs (pairs : List (String × String)) :
    (ofPairs pairs).Gathers pairs where
  keysDistinct := (ofPairs pairs).values.keysDistinct
  keysInOrder := keys_ofPairs pairs
  getAll?_eq key := getAll?_ofPairs key pairs
  nonempty _ entryMem := nonempty_of_mem_entries_ofPairs entryMem
  valueCount_eq := (valueCount_appendAll empty pairs).trans (Nat.zero_add _)

/-- One exchange of two neighbours with different keys. -/
inductive Exchange : List (String × String) → List (String × String) → Prop where
  | swap {first second : String × String} (keyNe : first.1 ≠ second.1)
      (rest : List (String × String)) :
      Exchange (first :: second :: rest) (second :: first :: rest)
  | cons (pair : String × String) {pairs others : List (String × String)}
      (exchange : Exchange pairs others) :
      Exchange (pair :: pairs) (pair :: others)

open Relation (ReflTransGen)

/-- No exchange touches the history of a key. -/
theorem Exchange.valuesUnder_eq {first second : List (String × String)}
    (exchange : Exchange first second) (key : String) :
    valuesUnder key first = valuesUnder key second := by
  induction exchange with
  | @swap one other keyNe rest =>
      simp only [valuesUnder_cons]
      by_cases oneEq : one.1 = key
      · have otherNe : other.1 ≠ key := fun otherEq =>
          keyNe (oneEq.trans otherEq.symm)
        rw [if_neg otherNe, if_neg otherNe]
      · rw [if_neg oneEq, if_neg oneEq]
  | cons pair exchange ih => rw [valuesUnder_cons, valuesUnder_cons, ih]

theorem valuesUnder_eq_of_exchanges {first second : List (String × String)}
    (exchanges : ReflTransGen Exchange first second) (key : String) :
    valuesUnder key first = valuesUnder key second := by
  induction exchanges with
  | refl => rfl
  | tail _ exchange ih => rw [ih, exchange.valuesUnder_eq]

theorem exchanges_cons (pair : String × String)
    {first second : List (String × String)}
    (exchanges : ReflTransGen Exchange first second) :
    ReflTransGen Exchange (pair :: first) (pair :: second) :=
  exchanges.lift (pair :: ·) fun _ _ exchange => exchange.cons pair

/-- A pair moves past pairs with other keys. -/
theorem exchanges_past {pair : String × String}
    {before : List (String × String)} (avoided : pair.1 ∉ before.map Prod.fst)
    (after : List (String × String)) :
    ReflTransGen Exchange (pair :: (before ++ after))
      (before ++ pair :: after) := by
  induction before with
  | nil => exact .refl
  | cons other before ih =>
      simp only [List.map_cons, List.mem_cons, not_or] at avoided
      exact .head (.swap avoided.1 _) (exchanges_cons other (ih avoided.2))

/-- The first value of a key stands behind pairs with other keys. -/
theorem exists_split_of_valuesUnder_eq_cons {key value : String}
    {values : List String} {pairs : List (String × String)}
    (valuesEq : valuesUnder key pairs = value :: values) :
    ∃ before after, pairs = before ++ (key, value) :: after ∧
      key ∉ before.map Prod.fst := by
  induction pairs with
  | nil => simp at valuesEq
  | cons pair pairs ih =>
      rw [valuesUnder_cons] at valuesEq
      split at valuesEq
      case isTrue keyEq =>
        obtain ⟨rfl, -⟩ := List.cons.inj valuesEq
        exact ⟨[], pairs, by simp [← keyEq], by simp⟩
      case isFalse keyNe =>
        obtain ⟨before, after, rfl, avoided⟩ := ih valuesEq
        refine ⟨pair :: before, after, rfl, ?_⟩
        simpa [Ne.symm keyNe] using avoided

/-- Sequences that give every key one history are exchanged into each other: the
first pair of one is found in the other and brought to its front. -/
theorem exchanges_of_valuesUnder_eq {first second : List (String × String)}
    (same : ∀ key, valuesUnder key first = valuesUnder key second) :
    ReflTransGen Exchange first second := by
  induction first generalizing second with
  | nil =>
      cases second with
      | nil => exact .refl
      | cons pair second =>
          have noValues := same pair.1
          simp [valuesUnder_cons] at noValues
  | cons pair first ih =>
      obtain ⟨name, value⟩ := pair
      have head : valuesUnder name second = value :: valuesUnder name first := by
        rw [← same, valuesUnder_cons, if_pos rfl]
      obtain ⟨before, after, rfl, avoided⟩ :=
        exists_split_of_valuesUnder_eq_cons head
      have others : ∀ key,
          valuesUnder key first = valuesUnder key (before ++ after) := by
        intro key
        have sameKey := same key
        rw [valuesUnder_append, valuesUnder_cons, valuesUnder_cons] at sameKey
        rw [valuesUnder_append]
        by_cases nameEq : name = key
        · subst nameEq
          rw [valuesUnder_eq_nil avoided] at sameKey ⊢
          simpa using sameKey
        · simpa [nameEq] using sameKey
      exact (exchanges_cons _ (ih others)).trans (exchanges_past avoided after)

theorem beq_ofPairs_iff_valuesUnder_eq {first second : List (String × String)} :
    (ofPairs first == ofPairs second) = true ↔
      ∀ key, valuesUnder key first = valuesUnder key second := by
  rw [beq_iff_getAll?_eq]
  constructor
  · intro same key
    rw [← getAll_ofPairs, ← getAll_ofPairs, getAll, getAll, same]
  · intro same key
    have memIff : key ∈ first.map Prod.fst ↔ key ∈ second.map Prod.fst := by
      rw [← not_iff_not, ← valuesUnder_eq_nil_iff, ← valuesUnder_eq_nil_iff,
        same]
    simp only [getAll?_ofPairs, memIff, same]

/-- Appending pairs one at a time and collecting them build the same parameters,
which hold exactly these pairs.  Two sequences build equal parameters exactly when
every look-up agrees, which is when exchanges of neighbours with different keys
lead from one to the other. -/
theorem ofPairs_isMultimap :
    (∀ pairs parameters,
        BuiltFrom pairs parameters ↔ ofPairs pairs = parameters) ∧
      (∀ pairs, (ofPairs pairs).Gathers pairs) ∧
      (∀ first second, (ofPairs first == ofPairs second) = true ↔
        ∀ key, (ofPairs first).getAll? key = (ofPairs second).getAll? key) ∧
      ∀ first second, (ofPairs first == ofPairs second) = true ↔
        ReflTransGen Exchange first second := by
  refine ⟨fun _ _ => builtFrom_iff, gathers_ofPairs,
    fun _ _ => beq_iff_getAll?_eq, ?_⟩
  intro first second
  rw [beq_ofPairs_iff_valuesUnder_eq]
  exact ⟨exchanges_of_valuesUnder_eq, valuesUnder_eq_of_exchanges⟩

/-- Equal parameters may list their keys in another order. -/
example :
    (ofPairs [("a", "1"), ("b", "2"), ("a", "3")] ==
      ofPairs [("b", "2"), ("a", "1"), ("a", "3")]) = true := by
  decide

end Parameters

end FilterSql
