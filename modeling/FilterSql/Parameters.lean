import FilterSql.FormCoding
import FilterSql.OrderedMap

/-!
# Request parameters

Parameters hold a list of values under every key, in the order in which the keys
first appeared: `a=1&b=2&a=3` has `1, 3` under `a` and then `2` under `b`.  Two
parameter sets are equal when they hold the same lists under the same keys.
-/

namespace FilterSql

/-- Lists of values under keys. -/
structure Parameters where
  values : OrderedMap (List String)

namespace Parameters

def empty : Parameters :=
  ⟨OrderedMap.empty⟩

/-- Adds a value to the end of the list under a key. -/
def append (parameters : Parameters) (key value : String) : Parameters :=
  ⟨parameters.values.alter key fun values => values.getD [] ++ [value]⟩

/-- Adds pairs one after another. -/
def appendAll (parameters : Parameters) (pairs : List (String × String)) :
    Parameters :=
  pairs.foldl (fun parameters pair => parameters.append pair.1 pair.2) parameters

/-- The parameters that a list of pairs makes. -/
def ofPairs (pairs : List (String × String)) : Parameters :=
  empty.appendAll pairs

/-- The parameters with the given lists; the last list of a repeated key stays. -/
def ofLists (lists : List (String × List String)) : Parameters :=
  ⟨OrderedMap.ofList lists⟩

/-- A text without one question mark at its front. -/
def dropQuestionMark : List Char → List Char
  | '?' :: rest => rest
  | text => text

/-- Reads the parameters of a query string; every text is accepted. -/
def ofQueryString (text : String) : Parameters :=
  ofPairs (FormCoding.decodePairs (dropQuestionMark text.toList))

/-- The keys with their lists, in the order of the keys' first appearance. -/
def entries (parameters : Parameters) : List (String × List String) :=
  parameters.values.entries

def getAll? (parameters : Parameters) (key : String) : Option (List String) :=
  parameters.values.get? key

/-- The list under a key, empty when the key is absent. -/
def getAll (parameters : Parameters) (key : String) : List String :=
  (parameters.getAll? key).getD []

def first? (parameters : Parameters) (key : String) : Option String :=
  (parameters.getAll key).head?

def contains (parameters : Parameters) (key : String) : Bool :=
  parameters.values.contains key

def size (parameters : Parameters) : Nat :=
  parameters.values.size

def isEmpty (parameters : Parameters) : Bool :=
  parameters.values.isEmpty

instance : BEq Parameters :=
  ⟨fun first second => first.values == second.values⟩

theorem dropQuestionMark_eq_self {text : List Char}
    (bare : text.head? ≠ some '?') : dropQuestionMark text = text := by
  unfold dropQuestionMark
  split
  · exact absurd rfl bare
  · rfl

end Parameters

end FilterSql
