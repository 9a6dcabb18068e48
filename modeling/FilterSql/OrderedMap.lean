/-!
# Ordered maps

A map from strings that lists its entries in the order in which their keys
first appeared.  Changing the value under a key leaves the key where it is, and
a new key goes to the end.  Two maps are equal when they hold the same value
under every key, whatever the order.

The main statements say what a change does to the keys and to each lookup, and
that a map is the map of its entries.
-/

namespace FilterSql

/-- A map from strings whose entries stand in the order in which their keys
first appeared. -/
structure OrderedMap (α : Type) where
  entries : List (String × α)
  keysDistinct : (entries.map Prod.fst).Nodup

namespace OrderedMap

variable {α : Type}

def empty : OrderedMap α :=
  ⟨[], List.nodup_nil⟩

/-- The keys, in the order of their first appearance. -/
def keys (map : OrderedMap α) : List String :=
  map.entries.map Prod.fst

def size (map : OrderedMap α) : Nat :=
  map.entries.length

def isEmpty (map : OrderedMap α) : Bool :=
  map.entries.isEmpty

def get? (map : OrderedMap α) (key : String) : Option α :=
  map.entries.lookup key

def contains (map : OrderedMap α) (key : String) : Bool :=
  (map.get? key).isSome

/-- Changes the value under `key` where it stands, or adds `key` as the last
entry when it is not there. -/
def alterEntries (key : String) (change : Option α → α) :
    List (String × α) → List (String × α)
  | [] => [(key, change none)]
  | (name, value) :: rest =>
      if name = key then (name, change (some value)) :: rest
      else (name, value) :: alterEntries key change rest

/-- A change keeps every key in place and adds a missing one at the end. -/
theorem keys_alterEntries (key : String) (change : Option α → α)
    (entries : List (String × α)) :
    (alterEntries key change entries).map Prod.fst =
      if key ∈ entries.map Prod.fst then entries.map Prod.fst
      else entries.map Prod.fst ++ [key] := by
  induction entries with
  | nil => simp [alterEntries]
  | cons entry rest ih =>
      obtain ⟨name, value⟩ := entry
      by_cases nameEq : name = key
      · simp [alterEntries, nameEq]
      · have keyNe : key ≠ name := fun h => nameEq h.symm
        by_cases keyMem : key ∈ rest.map Prod.fst
        · simp only [alterEntries, nameEq, if_false, List.map_cons, ih, keyMem,
            if_true, List.mem_cons, or_true]
        · simp only [alterEntries, nameEq, if_false, List.map_cons, ih, keyMem,
            List.mem_cons, keyNe, or_self, List.cons_append]

theorem nodup_keys_alterEntries (key : String) (change : Option α → α)
    {entries : List (String × α)}
    (distinct : (entries.map Prod.fst).Nodup) :
    ((alterEntries key change entries).map Prod.fst).Nodup := by
  rw [keys_alterEntries]
  split
  · exact distinct
  case isFalse keyNotMem =>
    refine List.nodup_append.mpr ⟨distinct, by simp, ?_⟩
    intro name nameMem other otherMem nameEq
    have otherEq : other = key := by simpa using otherMem
    exact keyNotMem (otherEq ▸ nameEq ▸ nameMem)

theorem lookup_alterEntries_self (key : String) (change : Option α → α)
    (entries : List (String × α)) :
    (alterEntries key change entries).lookup key =
      some (change (entries.lookup key)) := by
  induction entries with
  | nil => simp [alterEntries]
  | cons entry rest ih =>
      obtain ⟨name, value⟩ := entry
      by_cases nameEq : name = key
      · simp [alterEntries, nameEq]
      · have keyNe : (key == name) = false := by
          simpa using fun h : key = name => nameEq h.symm
        simp [alterEntries, nameEq, List.lookup_cons, keyNe, ih]

theorem lookup_alterEntries_of_ne {key other : String} (keyNe : other ≠ key)
    (change : Option α → α) (entries : List (String × α)) :
    (alterEntries key change entries).lookup other = entries.lookup other := by
  induction entries with
  | nil =>
      have otherNe : (other == key) = false := by simpa using keyNe
      simp [alterEntries, List.lookup_cons, otherNe]
  | cons entry rest ih =>
      obtain ⟨name, value⟩ := entry
      by_cases nameEq : name = key
      · have otherNe : (other == key) = false := by simpa using keyNe
        simp [alterEntries, nameEq, List.lookup_cons, otherNe]
      · simp [alterEntries, nameEq, List.lookup_cons, ih]

/-- The map with the value under `key` changed; `change` receives the old
value, if there is one. -/
def alter (map : OrderedMap α) (key : String) (change : Option α → α) :
    OrderedMap α :=
  ⟨alterEntries key change map.entries,
    nodup_keys_alterEntries key change map.keysDistinct⟩

/-- The map with `value` under `key`; a replaced key keeps its position. -/
def insert (map : OrderedMap α) (key : String) (value : α) : OrderedMap α :=
  map.alter key fun _ => value

/-- The map of a list of pairs; the last value of a repeated key stays. -/
def ofList (pairs : List (String × α)) : OrderedMap α :=
  pairs.foldl (fun map pair => map.insert pair.1 pair.2) empty

/-- Reads the value under every key; the keys keep their order. -/
def traverse {β : Type} (read : α → Option β) (map : OrderedMap α) :
    Option (OrderedMap β) :=
  (map.entries.mapM fun entry =>
    (read entry.2).map fun value => (entry.1, value)).map ofList

@[simp]
theorem get?_alter_self (map : OrderedMap α) (key : String)
    (change : Option α → α) :
    (map.alter key change).get? key = some (change (map.get? key)) :=
  lookup_alterEntries_self key change map.entries

theorem get?_alter_of_ne (map : OrderedMap α) {key other : String}
    (keyNe : other ≠ key) (change : Option α → α) :
    (map.alter key change).get? other = map.get? other :=
  lookup_alterEntries_of_ne keyNe change map.entries

theorem get?_insert (map : OrderedMap α) (key : String) (value : α)
    (other : String) :
    (map.insert key value).get? other =
      if other = key then some value else map.get? other := by
  split
  case isTrue keyEq =>
    rw [keyEq, insert, get?_alter_self]
  case isFalse keyNe => exact map.get?_alter_of_ne keyNe _

theorem keys_alter (map : OrderedMap α) (key : String)
    (change : Option α → α) :
    (map.alter key change).keys =
      if key ∈ map.keys then map.keys else map.keys ++ [key] :=
  keys_alterEntries key change map.entries

/-- A change of a key that the first entries lack happens among the others. -/
theorem alterEntries_append_of_notMem {key : String}
    {front : List (String × α)} (notMem : key ∉ front.map Prod.fst)
    (change : Option α → α) (rest : List (String × α)) :
    alterEntries key change (front ++ rest) =
      front ++ alterEntries key change rest := by
  induction front with
  | nil => rfl
  | cons entry front ih =>
      obtain ⟨name, value⟩ := entry
      simp only [List.map_cons, List.mem_cons, not_or] at notMem
      simp [alterEntries, Ne.symm notMem.1, ih notMem.2]

/-- A key that is not there is added as the last entry. -/
theorem alterEntries_of_notMem {key : String} {entries : List (String × α)}
    (notMem : key ∉ entries.map Prod.fst) (change : Option α → α) :
    alterEntries key change entries = entries ++ [(key, change none)] := by
  simpa [alterEntries] using alterEntries_append_of_notMem notMem change []

/-- Pairs with distinct keys are the entries of their map. -/
theorem entries_ofList {pairs : List (String × α)}
    (distinct : (pairs.map Prod.fst).Nodup) :
    (ofList pairs).entries = pairs := by
  have general : ∀ (map : OrderedMap α) (rest : List (String × α)),
      ((map.entries ++ rest).map Prod.fst).Nodup →
      (rest.foldl (fun map pair => map.insert pair.1 pair.2) map).entries =
        map.entries ++ rest := by
    intro map rest
    induction rest generalizing map with
    | nil => simp
    | cons pair rest ih =>
        intro nodup
        have notMem : pair.1 ∉ map.entries.map Prod.fst := by
          intro mem
          rw [List.map_append, List.nodup_append] at nodup
          exact nodup.2.2 pair.1 mem pair.1 (by simp) rfl
        have inserted : (map.insert pair.1 pair.2).entries =
            map.entries ++ [pair] :=
          alterEntries_of_notMem notMem _
        rw [List.foldl_cons, ih _ (by simpa [inserted] using nodup), inserted,
          List.append_assoc, List.singleton_append]
  exact general empty pairs distinct

/-- Pairs with distinct keys are read one by one. -/
theorem traverse_ofList {β : Type} {read : α → Option β}
    {pairs : List (String × α)} {results : List (String × β)}
    (distinct : (pairs.map Prod.fst).Nodup)
    (pairsRead : (pairs.mapM fun pair =>
      (read pair.2).map fun value => (pair.1, value)) = some results) :
    (ofList pairs).traverse read = some (ofList results) := by
  rw [traverse, entries_ofList distinct, pairsRead, Option.map_some]

/-- The map of the entries of a map is the map. -/
theorem ofList_entries (map : OrderedMap α) : ofList map.entries = map := by
  cases map with
  | mk entries distinct =>
      have same := entries_ofList distinct
      cases listed : ofList entries with
      | mk others othersDistinct =>
          rw [listed] at same
          cases same
          rfl

theorem lookup_eq_some_iff_mem {entries : List (String × α)}
    (distinct : (entries.map Prod.fst).Nodup) {key : String} {value : α} :
    entries.lookup key = some value ↔ (key, value) ∈ entries := by
  induction entries with
  | nil => simp
  | cons entry entries ih =>
      obtain ⟨name, other⟩ := entry
      obtain ⟨nameNotMem, restDistinct⟩ := List.nodup_cons.mp distinct
      by_cases keyEq : key = name
      · have notMem : (name, value) ∉ entries := fun entryMem =>
          nameNotMem (List.mem_map.mpr ⟨_, entryMem, rfl⟩)
        simp [keyEq, notMem, eq_comm]
      · have keyNe : (key == name) = false := by simpa using keyEq
        simp [List.lookup_cons, keyNe, keyEq, ih restDistinct]

theorem get?_eq_some_iff {map : OrderedMap α} {key : String} {value : α} :
    map.get? key = some value ↔ (key, value) ∈ map.entries :=
  lookup_eq_some_iff_mem map.keysDistinct

theorem lookup_filter (keep : String → Bool) (entries : List (String × α))
    (key : String) :
    (entries.filter fun entry => keep entry.1).lookup key =
      if keep key then entries.lookup key else none := by
  induction entries with
  | nil => simp
  | cons entry entries ih =>
      obtain ⟨name, value⟩ := entry
      by_cases keyEq : key = name
      · subst keyEq
        cases kept : keep key with
        | false => simpa [kept] using ih
        | true => simp [kept]
      · have keyNe : (key == name) = false := by simpa using keyEq
        cases kept : keep name with
        | false => simp [kept, List.lookup_cons, keyNe, ih]
        | true => simp [kept, List.lookup_cons, keyNe, ih]

/-- What is found among pairs with distinct keys when some keys are left out. -/
theorem get?_ofList_filter {pairs : List (String × α)}
    (distinct : (pairs.map Prod.fst).Nodup) (keep : String → Bool)
    (key : String) :
    (ofList (pairs.filter fun pair => keep pair.1)).get? key =
      if keep key then pairs.lookup key else none := by
  have keptDistinct :
      ((pairs.filter fun pair => keep pair.1).map Prod.fst).Nodup :=
    distinct.sublist (List.filter_sublist.map Prod.fst)
  rw [get?, entries_ofList keptDistinct, lookup_filter]

/-- Whether two maps have the same number of keys and the second holds every
entry of the first. -/
def agrees [BEq α] (first second : OrderedMap α) : Bool :=
  first.size == second.size &&
    first.entries.all fun entry => second.get? entry.1 == some entry.2

instance [BEq α] : BEq (OrderedMap α) :=
  ⟨agrees⟩

end OrderedMap

end FilterSql
