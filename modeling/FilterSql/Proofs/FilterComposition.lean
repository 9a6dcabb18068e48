import FilterSql.Proofs.Compilation

/-!
# Filters of joined conditions

The filter of two lists of conditions, one after the other, is made of their
filters: the first failure is reported, the arguments follow each other, and the
texts are joined unless one of the lists is empty.
-/

namespace FilterSql

open Traversal

namespace Fragment

variable {first second : List Fragment}

theorem arguments_conjunction_append :
    (conjunction (first ++ second)).arguments =
      (conjunction first).arguments ++ (conjunction second).arguments :=
  List.filterMap_append

theorem sql_conjunction_append (firstNonempty : first ≠ [])
    (secondNonempty : second ≠ []) :
    (conjunction (first ++ second)).sql =
      (conjunction first).sql ++ " AND " ++ (conjunction second).sql := by
  simp only [conjunction, List.map_append]
  exact String.intercalate_append_of_ne_nil
    (mt List.map_eq_nil_iff.mp firstNonempty)
    (mt List.map_eq_nil_iff.mp secondNonempty)

end Fragment

namespace Condition

variable {schema : Schema} {first second conditions : List Condition}

/-- The first list is compiled before the second one. -/
theorem failure?_filter_append :
    failure? (filter schema (first ++ second)) =
      (failure? (filter schema first)).or (failure? (filter schema second)) := by
  simp only [filter, failure?_bind_pure, fragments, failure?_mapM,
    List.findSome?_append]

theorem fragments_append_eq_ok {firstFragments secondFragments : List Fragment}
    (firstOk : fragments schema first = .ok firstFragments)
    (secondOk : fragments schema second = .ok secondFragments) :
    fragments schema (first ++ second) =
      .ok (firstFragments ++ secondFragments) := by
  rw [fragments, mapM_eq_ok_iff] at firstOk secondOk ⊢
  exact List.rel_append firstOk secondOk

/-- Every condition gives one fragment. -/
theorem eq_nil_iff_of_fragments {fragments : List Fragment}
    (fragmentsOk : Condition.fragments schema conditions = .ok fragments) :
    fragments = [] ↔ conditions = [] :=
  eq_nil_iff_of_mapM fragmentsOk

/-- The text of two filters that both have to hold; a list without conditions
adds nothing to it. -/
theorem filter_append_eq_ok {firstFilter secondFilter : BoundSql}
    (firstOk : filter schema first = .ok firstFilter)
    (secondOk : filter schema second = .ok secondFilter) :
    ∃ joined, filter schema (first ++ second) = .ok joined ∧
      joined.arguments = firstFilter.arguments ++ secondFilter.arguments ∧
      (first = [] → joined.sql = secondFilter.sql) ∧
      (second = [] → joined.sql = firstFilter.sql) ∧
      (first ≠ [] → second ≠ [] →
        joined.sql = firstFilter.sql ++ " AND " ++ secondFilter.sql) := by
  obtain ⟨firstFragments, firstFragmentsOk, rfl⟩ := filter_eq_ok_iff.mp firstOk
  obtain ⟨secondFragments, secondFragmentsOk, rfl⟩ :=
    filter_eq_ok_iff.mp secondOk
  have joinedOk := fragments_append_eq_ok firstFragmentsOk secondFragmentsOk
  rw [Ne, Ne, ← eq_nil_iff_of_fragments firstFragmentsOk,
    ← eq_nil_iff_of_fragments secondFragmentsOk]
  refine ⟨_, filter_eq_ok_iff.mpr ⟨_, joinedOk, rfl⟩,
    Fragment.arguments_conjunction_append, ?_, ?_,
    Fragment.sql_conjunction_append⟩
  · rintro rfl
    rfl
  · rintro rfl
    rw [List.append_nil]

end Condition

namespace Query

/-- The filter of a query whose conditions are those of one query and then those
of another is made of the filters of the two.  The failure of the first comes
before that of the second, and nothing else of the queries takes part. -/
theorem filter_of_conditions_append {whole first second : Query}
    (conditionsEq : whole.conditions = first.conditions ++ second.conditions)
    (schema : Schema) :
    (∀ error, first.filter schema = .error error →
        whole.filter schema = .error error) ∧
      (∀ firstFilter error, first.filter schema = .ok firstFilter →
        second.filter schema = .error error →
          whole.filter schema = .error error) ∧
      (∀ firstFilter secondFilter, first.filter schema = .ok firstFilter →
        second.filter schema = .ok secondFilter →
          ∃ joined, whole.filter schema = .ok joined ∧
            joined.arguments =
              firstFilter.arguments ++ secondFilter.arguments ∧
            (first.conditions = [] → joined.sql = secondFilter.sql) ∧
            (second.conditions = [] → joined.sql = firstFilter.sql) ∧
            (first.conditions ≠ [] → second.conditions ≠ [] →
              joined.sql = firstFilter.sql ++ " AND " ++ secondFilter.sql)) ∧
      ∀ other : Query, other.conditions = whole.conditions →
        other.filter schema = whole.filter schema := by
  have inOrder : failure? (whole.filter schema) =
      (failure? (first.filter schema)).or
        (failure? (second.filter schema)) := by
    rw [Query.filter, conditionsEq]
    exact Condition.failure?_filter_append
  refine ⟨?_, ?_, ?_, ?_⟩
  · intro error firstFails
    rw [← failure?_eq_some_iff, inOrder, firstFails]
    rfl
  · intro firstFilter error firstOk secondFails
    rw [← failure?_eq_some_iff, inOrder, firstOk, secondFails]
    rfl
  · intro firstFilter secondFilter firstOk secondOk
    rw [Query.filter, conditionsEq]
    exact Condition.filter_append_eq_ok firstOk secondOk
  · intro other sameConditions
    rw [Query.filter, sameConditions]
    rfl

/-- The fields of rooms in a house. -/
def roomSchema : Schema :=
  .ofList
    [("floor", ⟨some "r.floor", none, some .integer⟩), ("name", .unset)]

def roomQuery (conditions : List Condition) : Query :=
  { everything with conditions := conditions }

/-- A condition without an argument and one with an argument. -/
def upperRooms : List Condition :=
  [⟨"floor", "isnull", ["0"]⟩, ⟨"floor", "gt", ["2"]⟩]

def namedRooms : List Condition :=
  [⟨"name", "in", ["attic", "loft"]⟩]

def topRooms : List Condition :=
  [⟨"floor", "isnull", ["top"]⟩]

def roofedRooms : List Condition :=
  [⟨"roof", "eq", ["flat"]⟩]

theorem filter_of_conditions_append_of_roomQuery :
    (∃ joined,
      (roomQuery (upperRooms ++ namedRooms)).filter roomSchema = .ok joined ∧
        joined.sql = "r.floor IS NULL AND r.floor > ? AND name IN (?)" ∧
        joined.arguments = [.integer 2, .list [.text "attic", .text "loft"]]) ∧
      (roomQuery (roofedRooms ++ topRooms)).filter roomSchema =
        .error (.unknownField "roof") ∧
      (roomQuery (upperRooms ++ topRooms)).filter roomSchema =
        .error (.conversion (.integer "top" .invalidDigit)) := by
  have split (first second : List Condition) :
      (roomQuery (first ++ second)).conditions =
        (roomQuery first).conditions ++ (roomQuery second).conditions :=
    rfl
  refine ⟨?_, ?_, ?_⟩
  · obtain ⟨_, _, joins, _⟩ :=
      filter_of_conditions_append (split upperRooms namedRooms) roomSchema
    obtain ⟨joined, joinedOk, argumentsEq, _, _, sqlEq⟩ := joins _ _ rfl rfl
    exact ⟨joined, joinedOk, sqlEq (List.cons_ne_nil _ _) (List.cons_ne_nil _ _),
      argumentsEq⟩
  · obtain ⟨firstFails, _⟩ :=
      filter_of_conditions_append (split roofedRooms topRooms) roomSchema
    exact firstFails _ rfl
  · obtain ⟨_, secondFails, _⟩ :=
      filter_of_conditions_append (split upperRooms topRooms) roomSchema
    exact secondFails _ _ rfl rfl

end Query

end FilterSql
