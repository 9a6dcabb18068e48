import Mathlib.Data.List.Forall2
import Mathlib.Data.List.Perm.Basic

/-!
# Computations that may fail

A sequence of computations succeeds exactly when each of them does, and a
traversal of a list succeeds exactly when it does at every item.  Otherwise the
first failure is the failure of the whole.
-/

namespace FilterSql

namespace Traversal

variable {ε α β γ δ : Type}

theorem bind_eq_ok_iff {computation : Except ε α} {next : α → Except ε β}
    {result : β} :
    (computation >>= next) = .ok result ↔
      ∃ value, computation = .ok value ∧ next value = .ok result := by
  cases computation <;> simp [bind, Except.bind]

theorem pure_eq_ok_iff {value result : α} :
    (pure value : Except ε α) = .ok result ↔ value = result := by
  simp [pure, Except.pure]

theorem mapError_eq_ok_iff {computation : Except ε α} {change : ε → δ}
    {result : α} :
    computation.mapError change = .ok result ↔ computation = .ok result := by
  cases computation with
  | error =>
      constructor
      · intro read
        cases read
      · intro read
        cases read
  | ok =>
      constructor
      · intro read
        cases read
        rfl
      · intro read
        cases read
        rfl

theorem mapM_eq_ok_iff {step : α → Except ε β} {items : List α}
    {results : List β} :
    items.mapM step = .ok results ↔
      List.Forall₂ (fun item result => step item = .ok result) items results := by
  induction items generalizing results with
  | nil =>
      rw [List.mapM_nil, pure_eq_ok_iff, List.forall₂_nil_left_iff, eq_comm]
  | cons item items ih =>
      simp only [List.mapM_cons, bind_eq_ok_iff, pure_eq_ok_iff, ih,
        List.forall₂_cons_left_iff]
      constructor
      · rintro ⟨first, firstOk, rest, restOk, rfl⟩
        exact ⟨first, rest, firstOk, restOk, rfl⟩
      · rintro ⟨first, rest, firstOk, restOk, rfl⟩
        exact ⟨first, firstOk, rest, restOk, rfl⟩

/-- The result at a position is what the step gives for the item there. -/
theorem exists_getElem?_of_mapM {step : α → Except ε β} {items : List α}
    {results : List β} (traversed : items.mapM step = .ok results)
    {index : Nat} {item : α} (itemAt : items[index]? = some item) :
    ∃ result, results[index]? = some result ∧ step item = .ok result := by
  rw [mapM_eq_ok_iff] at traversed
  induction traversed generalizing index with
  | nil => simp at itemAt
  | @cons first result items results firstOk _ ih =>
      cases index with
      | zero =>
          obtain rfl : first = item := by simpa using itemAt
          exact ⟨result, by simp, firstOk⟩
      | succ index => simpa using ih (by simpa using itemAt)

/-- A traversal gives one result for every item. -/
theorem length_of_mapM {step : α → Except ε β} {items : List α}
    {results : List β} (traversed : items.mapM step = .ok results) :
    items.length = results.length :=
  (mapM_eq_ok_iff.mp traversed).length_eq

theorem eq_nil_iff_of_mapM {step : α → Except ε β} {items : List α}
    {results : List β} (traversed : items.mapM step = .ok results) :
    results = [] ↔ items = [] := by
  rw [← List.length_eq_zero_iff, ← List.length_eq_zero_iff,
    length_of_mapM traversed]

theorem forall_of_mapM {step : α → Except ε β} {property : β → Prop}
    {items : List α} {results : List β}
    (steps : ∀ item ∈ items, ∀ result, step item = .ok result → property result)
    (traversed : items.mapM step = .ok results) :
    ∀ result ∈ results, property result := by
  rw [mapM_eq_ok_iff] at traversed
  induction traversed with
  | nil => exact fun _ resultMem => absurd resultMem List.not_mem_nil
  | @cons item result items results headOk _ ih =>
      intro other otherMem
      rcases List.mem_cons.mp otherMem with rfl | restMem
      · exact steps item List.mem_cons_self other headOk
      · exact ih (fun next nextMem => steps next (List.mem_cons_of_mem _ nextMem))
          other restMem

/-- A traversal whose steps follow from those of another one. -/
theorem map_of_mapM {firstStep : α → Except ε β} {secondStep : α → Except ε γ}
    {change : β → γ} {items : List α} {results : List β}
    (steps : ∀ item ∈ items, ∀ result, firstStep item = .ok result →
      secondStep item = .ok (change result))
    (traversed : items.mapM firstStep = .ok results) :
    items.mapM secondStep = .ok (results.map change) := by
  rw [mapM_eq_ok_iff] at traversed
  rw [mapM_eq_ok_iff, List.forall₂_map_right_iff]
  have related : List.Forall₂
      (fun item result => item ∈ items ∧ firstStep item = .ok result)
      items results :=
    (List.forall₂_and_left _ _).mpr ⟨fun _ itemMem => itemMem, traversed⟩
  exact related.imp fun item result stepOk =>
    steps item stepOk.1 result stepOk.2

/-- A traversal is undone by one that undoes every step. -/
theorem reads_of_mapM {write : α → Except ε β} {read : β → Option α}
    (reads : ∀ item result, write item = .ok result → read result = some item)
    {items : List α} {results : List β}
    (written : items.mapM write = .ok results) :
    results.mapM read = some items := by
  rw [mapM_eq_ok_iff] at written
  induction written with
  | nil => rfl
  | cons itemWritten _ ih =>
      simp [List.mapM_cons, reads _ _ itemWritten, ih]

/-- Two traversals whose items correspond have corresponding results. -/
theorem forall₂_of_mapM {itemsAgree : α → γ → Prop} {agree : β → δ → Prop}
    {firstStep : α → Except ε β} {secondStep : γ → Except ε δ}
    {firstItems : List α} {secondItems : List γ}
    {firstResults : List β} {secondResults : List δ}
    (items : List.Forall₂ itemsAgree firstItems secondItems)
    (steps : ∀ first second firstResult secondResult,
      itemsAgree first second → firstStep first = .ok firstResult →
        secondStep second = .ok secondResult → agree firstResult secondResult)
    (firstOk : firstItems.mapM firstStep = .ok firstResults)
    (secondOk : secondItems.mapM secondStep = .ok secondResults) :
    List.Forall₂ agree firstResults secondResults := by
  rw [mapM_eq_ok_iff] at firstOk secondOk
  induction items generalizing firstResults secondResults with
  | nil =>
      cases firstOk
      cases secondOk
      exact .nil
  | cons itemAgrees _ ih =>
      obtain ⟨firstResult, firstRest, firstHead, firstTail, rfl⟩ :=
        List.forall₂_cons_left_iff.mp firstOk
      obtain ⟨secondResult, secondRest, secondHead, secondTail, rfl⟩ :=
        List.forall₂_cons_left_iff.mp secondOk
      exact .cons (steps _ _ _ _ itemAgrees firstHead secondHead)
        (ih firstTail secondTail)

/-- Two traversals of one list that agree at every item have one result. -/
theorem eq_of_mapM {firstStep secondStep : α → Except ε β} {items : List α}
    {firstResults secondResults : List β}
    (steps : ∀ item ∈ items, ∀ first second, firstStep item = .ok first →
      secondStep item = .ok second → first = second)
    (firstOk : items.mapM firstStep = .ok firstResults)
    (secondOk : items.mapM secondStep = .ok secondResults) :
    firstResults = secondResults := by
  have same : List.Forall₂ (fun first second => first = second ∧ first ∈ items)
      items items :=
    List.forall₂_same.mpr fun item itemMem => ⟨rfl, itemMem⟩
  rw [← List.forall₂_eq_eq_eq]
  refine forall₂_of_mapM same ?_ firstOk secondOk
  rintro item _ first second ⟨rfl, itemMem⟩
  exact steps item itemMem first second

theorem mapM_congr {firstStep secondStep : α → Except ε β} {items : List α}
    (steps : ∀ item ∈ items, firstStep item = secondStep item) :
    items.mapM firstStep = items.mapM secondStep := by
  induction items with
  | nil => rfl
  | cons item items ih =>
      have rest := ih fun other otherMem =>
        steps other (List.mem_cons_of_mem _ otherMem)
      rw [List.mapM_cons, List.mapM_cons, steps item List.mem_cons_self, rest]

/-- A traversal of the same items in another order gives the same results in
another order. -/
theorem perm_of_mapM {step : α → Except ε β} {firstItems secondItems : List α}
    {firstResults : List β} (perm : firstItems.Perm secondItems)
    (firstOk : firstItems.mapM step = .ok firstResults) :
    ∃ secondResults, secondItems.mapM step = .ok secondResults ∧
      firstResults.Perm secondResults := by
  obtain ⟨secondResults, secondOk, resultsPerm⟩ :=
    List.perm_comp_forall₂ perm.symm (mapM_eq_ok_iff.mp firstOk)
  exact ⟨secondResults, mapM_eq_ok_iff.mpr secondOk, resultsPerm.symm⟩

theorem map_eq_map_iff {firstPart : α → γ} {secondPart : β → γ}
    {firstItems : List α} {secondItems : List β} :
    firstItems.map firstPart = secondItems.map secondPart ↔
      List.Forall₂ (fun first second => firstPart first = secondPart second)
        firstItems secondItems := by
  rw [← List.forall₂_eq_eq_eq, List.forall₂_map_left_iff,
    List.forall₂_map_right_iff]

/-- The error of a computation that fails. -/
def failure? : Except ε α → Option ε
  | .error error => some error
  | .ok _ => none

theorem failure?_eq_some_iff {computation : Except ε α} {error : ε} :
    failure? computation = some error ↔ computation = .error error := by
  cases computation <;> simp [failure?]

theorem failure?_eq_none_iff {computation : Except ε α} :
    failure? computation = none ↔ ∃ result, computation = .ok result := by
  cases computation <;> simp [failure?]

theorem failure?_map (change : α → β) (computation : Except ε α) :
    failure? (computation.map change) = failure? computation := by
  cases computation <;> rfl

theorem failure?_mapError (change : ε → δ) (computation : Except ε α) :
    failure? (computation.mapError change) =
      (failure? computation).map change := by
  cases computation <;> rfl

/-- A sequence fails with its first failure, when the failure of the second
computation does not depend on what the first one gives. -/
theorem failure?_bind {computation : Except ε α} {next : α → Except ε β}
    {later : Option ε}
    (nextFailure : ∀ value, computation = .ok value →
      failure? (next value) = later) :
    failure? (computation >>= next) = (failure? computation).or later := by
  cases computation with
  | error => rfl
  | ok value => exact nextFailure value rfl

theorem bind_pure_eq_map (computation : Except ε α) (change : α → β) :
    (computation >>= fun value => pure (change value)) =
      computation.map change := by
  cases computation <;> rfl

theorem failure?_bind_pure (computation : Except ε α) (change : α → β) :
    failure? (computation >>= fun value => pure (change value)) =
      failure? computation := by
  rw [bind_pure_eq_map, failure?_map]

/-- A traversal fails with the first failure of its steps. -/
theorem failure?_mapM (step : α → Except ε β) (items : List α) :
    failure? (items.mapM step) =
      items.findSome? fun item => failure? (step item) := by
  induction items with
  | nil => rfl
  | cons item items ih =>
      have inOrder : failure? ((item :: items).mapM step) =
          (failure? (step item)).or (failure? (items.mapM step)) := by
        rw [List.mapM_cons]
        refine failure?_bind fun result _ => ?_
        exact failure?_bind_pure _ _
      rw [inOrder, ih, List.findSome?_cons]
      cases failure? (step item) <;> rfl

theorem exists_eq_error_iff {computation : Except ε α} :
    (∃ error, computation = .error error) ↔
      (failure? computation).isSome = true := by
  simp only [← failure?_eq_some_iff, Option.isSome_iff_exists]

theorem exists_bind_pure_eq_error_iff {computation : Except ε α}
    {change : α → β} :
    (∃ error, (computation >>= fun value => pure (change value)) =
        .error error) ↔
      ∃ error, computation = .error error := by
  simp only [exists_eq_error_iff, failure?_bind_pure]

/-- A traversal fails exactly when one of its steps does. -/
theorem exists_mapM_eq_error_iff {step : α → Except ε β} {items : List α} :
    (∃ error, items.mapM step = .error error) ↔
      ∃ item ∈ items, ∃ error, step item = .error error := by
  simp only [exists_eq_error_iff, failure?_mapM, List.isSome_findSome?,
    List.any_eq_true]

theorem findSome?_flatMap (parts : α → List β) (found : β → Option γ)
    (items : List α) :
    (items.flatMap parts).findSome? found =
      items.findSome? fun item => (parts item).findSome? found := by
  induction items with
  | nil => rfl
  | cons item items ih =>
      rw [List.flatMap_cons, List.findSome?_append, ih, List.findSome?_cons]
      cases (parts item).findSome? found <;> rfl

end Traversal

end FilterSql
