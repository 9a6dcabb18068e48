/-!
# Filter operators

The thirteen operators that a condition can name.  A condition carries its
operator as a word; `Operator.ofName?` recognizes exactly the words of the
vocabulary.
-/

namespace FilterSql

/-- What a condition asks of a column. -/
inductive Operator where
  | isNull
  | equal
  | notEqual
  | greater
  | less
  | greaterOrEqual
  | lessOrEqual
  /-- Holds the text, in either case. -/
  | containsAnyCase
  | lacksAnyCase
  /-- Holds the text exactly. -/
  | contains
  | lacks
  | among
  | notAmong
  deriving DecidableEq, Repr

namespace Operator

/-- Every operator, in the order of the vocabulary. -/
def all : List Operator :=
  [isNull, equal, notEqual, greater, less, greaterOrEqual, lessOrEqual,
    containsAnyCase, lacksAnyCase, contains, lacks, among, notAmong]

/-- The word for an operator in a condition. -/
def name : Operator → String
  | isNull => "isnull"
  | equal => "eq"
  | notEqual => "ne"
  | greater => "gt"
  | less => "lt"
  | greaterOrEqual => "gte"
  | lessOrEqual => "lte"
  | containsAnyCase => "contain"
  | lacksAnyCase => "ncontain"
  | contains => "contains"
  | lacks => "ncontains"
  | among => "in"
  | notAmong => "nin"

def ofName? (word : String) : Option Operator :=
  all.find? fun operator => operator.name == word

/-- How an operator is shown to a programmer: its word with a
capital letter for each part. -/
def label (operator : Operator) : String :=
  if operator = isNull then "IsNull" else operator.name.capitalize

theorem mem_all (operator : Operator) : operator ∈ all := by
  cases operator <;> decide

theorem name_injective {first second : Operator}
    (nameEq : first.name = second.name) : first = second := by
  cases first <;> cases second <;> first | rfl | simp [name] at nameEq

/-- A word names an operator exactly when it is the operator's word. -/
theorem ofName?_eq_some_iff {word : String} {operator : Operator} :
    ofName? word = some operator ↔ operator.name = word := by
  constructor
  · intro found
    simpa using List.find?_some found
  · intro nameEq
    cases search : ofName? word with
    | none =>
        have := List.find?_eq_none.mp search operator (mem_all operator)
        simp [nameEq] at this
    | some other =>
        have otherName : other.name = word := by
          simpa using List.find?_some search
        rw [name_injective (otherName.trans nameEq.symm)]

@[simp]
theorem ofName?_name (operator : Operator) :
    ofName? operator.name = some operator :=
  ofName?_eq_some_iff.mpr rfl

end Operator

end FilterSql
