import FilterSql.Proofs.Compilation
import FilterSql.Proofs.QueryRoundTrip
import Mathlib.Data.List.Nodup
import Mathlib.Data.List.Perm.Basic
import Mathlib.Data.List.Perm.Subperm

/-!
# The order of parameters

Equal parameters list the same entries in some order.  The order decides nothing
but the order of the conditions that are read, and with it the order of the
fragments and their arguments: whether compilation succeeds and all other parts
of the result do not depend on it.
-/

namespace FilterSql

open Traversal

namespace OrderedMap

variable {α : Type}

theorem nodup_entries (map : OrderedMap α) : map.entries.Nodup :=
  List.Nodup.of_map Prod.fst map.keysDistinct

/-- Two maps are equal exactly when they have the same entries in some order. -/
theorem beq_iff_perm_entries [BEq α] [LawfulBEq α] {first second : OrderedMap α} :
    (first == second) = true ↔ first.entries.Perm second.entries := by
  have agreesIff : (first == second) = true ↔
      first.entries.length = second.entries.length ∧
        first.entries ⊆ second.entries := by
    change first.agrees second = true ↔ _
    simp only [agrees, Bool.and_eq_true, beq_iff_eq, List.all_eq_true,
      get?_eq_some_iff]
    rfl
  rw [agreesIff]
  constructor
  · rintro ⟨lengthEq, subset⟩
    exact (List.subperm_of_subset first.nodup_entries subset).perm_of_length_le
      (Nat.le_of_eq lengthEq.symm)
  · intro perm
    exact ⟨perm.length_eq, perm.subset⟩

theorem get?_eq_of_perm_entries {first second : OrderedMap α}
    (perm : first.entries.Perm second.entries) (key : String) :
    first.get? key = second.get? key := by
  refine Option.ext fun value => ?_
  rw [get?_eq_some_iff, get?_eq_some_iff, perm.mem_iff]

end OrderedMap

namespace Parameters

variable {first second : Parameters}

theorem beq_iff_perm_entries :
    (first == second) = true ↔ first.entries.Perm second.entries :=
  OrderedMap.beq_iff_perm_entries

theorem getAll_eq_of_perm (perm : first.entries.Perm second.entries)
    (key : String) : first.getAll key = second.getAll key := by
  rw [getAll, getAll, getAll?, getAll?,
    OrderedMap.get?_eq_of_perm_entries perm]

theorem number_eq_of_perm (perm : first.entries.Perm second.entries)
    (key : String) : first.number key = second.number key := by
  rw [number, number, first?, first?, getAll_eq_of_perm perm]

theorem conditions_perm (perm : first.entries.Perm second.entries) :
    first.conditions.Perm second.conditions :=
  perm.filterMap _

end Parameters

namespace Query

/-- Parameters in another order are read as the same query, but for the order of
the conditions. -/
theorem ofParameters_eq_map {first second : Parameters}
    (perm : first.entries.Perm second.entries) :
    ofParameters second = (ofParameters first).map fun query =>
      { query with conditions := second.conditions } := by
  have getAllEq := Parameters.getAll_eq_of_perm perm
  unfold ofParameters
  rw [← Parameters.number_eq_of_perm perm, ← Parameters.number_eq_of_perm perm,
    getAllEq, getAllEq, getAllEq, getAllEq]
  simp only [← bind_pure_eq_map, bind_assoc, pure_bind]

theorem isReorderingOf_of_ofParameters {first second : Parameters}
    {query : Query} (perm : first.entries.Perm second.entries)
    (read : ofParameters first = .ok query) :
    IsReorderingOf query { query with conditions := second.conditions } := by
  refine ⟨?_, rfl⟩
  rw [← (ofParameters_eq_ok_iff.mp read).1]
  exact Parameters.conditions_perm perm

/-- Whether the parts of two compiled queries are equal, except that the fragments
of their filters may stand in another order, each with its own argument. -/
structure ReorderedParts (schema : Schema) (first second : Query)
    (firstParts secondParts : SelectParts)
    (firstArguments secondArguments : List Value) : Prop where
  select : firstParts.select = secondParts.select
  group : firstParts.group = secondParts.group
  order : firstParts.order = secondParts.order
  limit : firstParts.limit = secondParts.limit
  offset : firstParts.offset = secondParts.offset
  fragments : ∃ firstFragments secondFragments,
    Condition.fragments schema first.conditions = .ok firstFragments ∧
      Condition.fragments schema second.conditions = .ok secondFragments ∧
      firstFragments.Perm secondFragments ∧
      Fragment.conjunction firstFragments =
        ⟨firstParts.condition, firstArguments⟩ ∧
      Fragment.conjunction secondFragments =
        ⟨secondParts.condition, secondArguments⟩

/-- Whether two queries are both compiled or both refused, and what they are
compiled to differs at most in the order of the fragments. -/
structure CompileAlike (first second : Query) (schema : Schema)
    (relations : Relations) (table : String) : Prop where
  statement_iff :
    (∃ statement, first.statement schema table = .ok statement) ↔
      ∃ statement, second.statement schema table = .ok statement
  plan_iff :
    (∃ plan, first.plan schema relations = .ok plan) ↔
      ∃ plan, second.plan schema relations = .ok plan
  statements : ∀ firstStatement secondStatement,
    first.statement schema table = .ok firstStatement →
      second.statement schema table = .ok secondStatement →
        ∃ firstParts secondParts,
          firstStatement.sql = firstParts.statement table ∧
            secondStatement.sql = secondParts.statement table ∧
            ReorderedParts schema first second firstParts secondParts
              firstStatement.arguments secondStatement.arguments
  plans : ∀ firstPlan secondPlan,
    first.plan schema relations = .ok firstPlan →
      second.plan schema relations = .ok secondPlan →
        firstPlan.models = secondPlan.models ∧
          ReorderedParts schema first second firstPlan.parts secondPlan.parts
            firstPlan.arguments secondPlan.arguments

namespace IsReorderingOf

variable {first second : Query} {schema : Schema} {relations : Relations}
  {table : String}

theorem symm (reordering : first.IsReorderingOf second) :
    second.IsReorderingOf first := by
  refine ⟨reordering.conditions.symm, ?_⟩
  rw [← reordering.others]

theorem models_eq (reordering : first.IsReorderingOf second) :
    first.models relations = second.models relations := by
  rw [← reordering.others]
  rfl

/-- The parts of a query are compiled along with those of its reordering. -/
theorem exists_parts (reordering : first.IsReorderingOf second)
    {firstParts : SelectParts} {firstArguments : List Value}
    (firstOk : first.parts schema = .ok (firstParts, firstArguments)) :
    ∃ secondParts secondArguments,
      second.parts schema = .ok (secondParts, secondArguments) ∧
        ReorderedParts schema first second firstParts secondParts firstArguments
          secondArguments := by
  obtain ⟨select, firstFragments, group, order, selectOk, fragmentsOk, groupOk,
    orderOk, rfl, rfl⟩ := parts_eq_ok_iff.mp firstOk
  obtain ⟨secondFragments, secondFragmentsOk, fragmentsPerm⟩ :=
    perm_of_mapM reordering.conditions fragmentsOk
  -- Every other part is made of what the two queries have in common.
  have selectEq : first.selectItems schema = second.selectItems schema := by
    rw [← reordering.others]
    rfl
  have groupEq : first.groupItems schema = second.groupItems schema := by
    rw [← reordering.others]
    rfl
  have orderEq : first.orderItems schema = second.orderItems schema := by
    rw [← reordering.others]
    rfl
  have limitEq : first.limit = second.limit := by rw [← reordering.others]
  have skipEq : first.skip = second.skip := by rw [← reordering.others]
  have secondOk := parts_eq_ok_iff.mpr ⟨select, secondFragments, group, order,
    selectEq ▸ selectOk, secondFragmentsOk, groupEq ▸ groupOk, orderEq ▸ orderOk,
    rfl, rfl⟩
  exact ⟨_, _, secondOk, rfl, rfl, rfl, limitEq, skipEq, firstFragments,
    secondFragments, fragmentsOk, secondFragmentsOk, fragmentsPerm, rfl, rfl⟩

theorem reorderedParts (reordering : first.IsReorderingOf second)
    {firstParts secondParts : SelectParts}
    {firstArguments secondArguments : List Value}
    (firstOk : first.parts schema = .ok (firstParts, firstArguments))
    (secondOk : second.parts schema = .ok (secondParts, secondArguments)) :
    ReorderedParts schema first second firstParts secondParts firstArguments
      secondArguments := by
  obtain ⟨otherParts, otherArguments, otherOk, reordered⟩ :=
    reordering.exists_parts firstOk
  rw [secondOk] at otherOk
  obtain ⟨rfl, rfl⟩ := Prod.mk.inj (Except.ok.inj otherOk)
  exact reordered

theorem exists_statement (reordering : first.IsReorderingOf second)
    (firstOk : ∃ statement, first.statement schema table = .ok statement) :
    ∃ statement, second.statement schema table = .ok statement := by
  obtain ⟨_, compiled⟩ := firstOk
  obtain ⟨_, _, firstPartsOk, rfl⟩ := statement_eq_ok_iff.mp compiled
  obtain ⟨secondParts, secondArguments, secondPartsOk, _⟩ :=
    reordering.exists_parts firstPartsOk
  exact ⟨_, statement_eq_ok_iff.mpr ⟨_, _, secondPartsOk, rfl⟩⟩

theorem exists_plan (reordering : first.IsReorderingOf second)
    (firstOk : ∃ plan, first.plan schema relations = .ok plan) :
    ∃ plan, second.plan schema relations = .ok plan := by
  obtain ⟨plan, compiled⟩ := firstOk
  obtain ⟨firstPartsOk, modelsOk⟩ := plan_eq_ok_iff.mp compiled
  obtain ⟨secondParts, secondArguments, secondPartsOk, _⟩ :=
    reordering.exists_parts firstPartsOk
  rw [reordering.models_eq] at modelsOk
  exact ⟨⟨_, _, _⟩, plan_eq_ok_iff.mpr ⟨secondPartsOk, modelsOk⟩⟩

/-- The order of the conditions decides the order of the fragments only. -/
theorem compileAlike (reordering : first.IsReorderingOf second)
    (schema : Schema) (relations : Relations) (table : String) :
    CompileAlike first second schema relations table where
  statement_iff := ⟨reordering.exists_statement, reordering.symm.exists_statement⟩
  plan_iff := ⟨reordering.exists_plan, reordering.symm.exists_plan⟩
  statements := by
    intro firstStatement secondStatement firstOk secondOk
    obtain ⟨firstParts, firstArguments, firstPartsOk, rfl⟩ :=
      statement_eq_ok_iff.mp firstOk
    obtain ⟨secondParts, secondArguments, secondPartsOk, rfl⟩ :=
      statement_eq_ok_iff.mp secondOk
    exact ⟨firstParts, secondParts, rfl, rfl,
      reordering.reorderedParts firstPartsOk secondPartsOk⟩
  plans := by
    intro firstPlan secondPlan firstOk secondOk
    obtain ⟨firstPartsOk, firstModelsOk⟩ := plan_eq_ok_iff.mp firstOk
    obtain ⟨secondPartsOk, secondModelsOk⟩ := plan_eq_ok_iff.mp secondOk
    rw [reordering.models_eq, secondModelsOk] at firstModelsOk
    exact ⟨(Except.ok.inj firstModelsOk).symm,
      reordering.reorderedParts firstPartsOk secondPartsOk⟩

end IsReorderingOf

/-- Equal parameters are refused with one error, or read as queries that differ at
most in the order of their conditions and that compile alike. -/
theorem compile_of_beq {first second : Parameters}
    (equal : (first == second) = true) :
    (∃ error, ofParameters first = .error error ∧
        ofParameters second = .error error) ∨
      ∃ firstQuery secondQuery,
        ofParameters first = .ok firstQuery ∧
          ofParameters second = .ok secondQuery ∧
          firstQuery.IsReorderingOf secondQuery ∧
          ∀ schema relations table,
            CompileAlike firstQuery secondQuery schema relations table := by
  have perm := Parameters.beq_iff_perm_entries.mp equal
  rw [ofParameters_eq_map perm]
  cases read : ofParameters first with
  | error error => exact .inl ⟨error, rfl, rfl⟩
  | ok firstQuery =>
      have reordering := isReorderingOf_of_ofParameters perm read
      exact .inr ⟨firstQuery, _, rfl, rfl, reordering, reordering.compileAlike⟩

/-- A query for pets, with its keys in one order. -/
def petParameters : Parameters :=
  .ofLists
    [("age_gte", ["3"]), ("limit", ["5"]), ("name_in", ["Rex", "Tom"]),
      ("group", ["name"])]

/-- The same query, with its keys in another order. -/
def shuffledPetParameters : Parameters :=
  .ofLists
    [("group", ["name"]), ("name_in", ["Rex", "Tom"]), ("age_gte", ["3"]),
      ("limit", ["5"])]

def agedPetSchema : Schema :=
  .ofList
    [("name", .unset), ("age", ⟨some "pets.age", none, some .integer⟩)]

theorem compile_of_beq_of_shuffledPetParameters :
    (petParameters == shuffledPetParameters) = true ∧
      ∃ first second statement,
        ofParameters petParameters = .ok first ∧
          ofParameters shuffledPetParameters = .ok second ∧
          first.conditions.Perm second.conditions ∧
          first.conditions ≠ second.conditions ∧
          first.statement agedPetSchema "pets" = .ok statement ∧
          ∃ other, second.statement agedPetSchema "pets" = .ok other := by
  have equal : (petParameters == shuffledPetParameters) = true := by decide
  refine ⟨equal, ?_⟩
  rcases compile_of_beq equal with ⟨_, failed, _⟩ |
    ⟨first, second, firstRead, secondRead, reordering, compiled⟩
  · cases failed
  · obtain rfl := Except.ok.inj firstRead
    obtain rfl := Except.ok.inj secondRead
    have alike := compiled agedPetSchema .empty "pets"
    exact ⟨_, _, _, rfl, rfl, reordering.conditions, by decide, rfl,
      alike.statement_iff.mp ⟨_, rfl⟩⟩

end Query

end FilterSql
