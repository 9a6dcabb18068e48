import FilterSql.Proofs.ExpansionOutcome

/-!
# Statements that are expanded already

A statement expands to itself exactly when every placeholder takes an argument
that is no list.  An expansion is of this kind unless a list was inside another
one, because lists are opened only once.
-/

namespace FilterSql

open Traversal

namespace Placeholders

theorem shown_of_isList (render : Value → String) {argument : Value}
    (noList : argument.isList = false) :
    shown render argument = render argument := by
  rw [shown_eq, replacements_of_isList noList, List.map_singleton,
    String.intercalate_singleton]

theorem flatMap_replacements_eq_self {arguments : List Value}
    (noLists : ∀ argument ∈ arguments, argument.isList = false) :
    arguments.flatMap replacements = arguments :=
  calc
    arguments.flatMap replacements = arguments.flatMap fun argument => [argument] :=
      List.flatMap_congr fun argument argumentMem =>
        replacements_of_isList (noLists argument argumentMem)
    _ = arguments := List.flatMap_singleton' arguments

/-- The first item of a list is smaller than the list, and so never stands in its
place. -/
theorem list_cons_ne_item (item : Value) (items : List Value) :
    item ≠ .list (item :: items) := by
  intro itemEq
  have sizeEq := congrArg sizeOf itemEq
  simp only [Value.list.sizeOf_spec, List.cons.sizeOf_spec] at sizeEq
  omega

/-- Arguments that are all replaced, and by themselves, are no lists. -/
theorem isList_of_flatMap_replacements_eq_self {arguments : List Value}
    (nonempty : ∀ argument ∈ arguments, replacements argument ≠ [])
    (unchanged : arguments.flatMap replacements = arguments) :
    ∀ argument ∈ arguments, argument.isList = false := by
  induction arguments with
  | nil => exact fun _ argumentMem => absurd argumentMem List.not_mem_nil
  | cons first rest ih =>
      rw [List.flatMap_cons] at unchanged
      have firstNoList : first.isList = false := by
        cases first with
        | list items =>
            cases items with
            | nil => exact absurd rfl (nonempty _ List.mem_cons_self)
            | cons item items =>
                exact absurd (List.cons.inj unchanged).1
                  (list_cons_ne_item item items)
        | _ => rfl
      rw [replacements_of_isList firstNoList, List.singleton_append,
        List.cons.injEq] at unchanged
      have restNoLists := ih (fun other otherMem =>
        nonempty other (List.mem_cons_of_mem _ otherMem)) unchanged.2
      exact List.forall_mem_cons.mpr ⟨firstNoList, restNoLists⟩

theorem forall_mem_flatMap_replacements_iff {arguments : List Value} :
    (∀ value ∈ arguments.flatMap replacements, value.isList = false) ↔
      ∀ items, .list items ∈ arguments →
        ∀ item ∈ items, item.isList = false := by
  constructor
  · intro noLists items itemsMem item itemMem
    exact noLists item (List.mem_flatMap.mpr ⟨_, itemsMem, itemMem⟩)
  · intro noNested value valueMem
    obtain ⟨argument, argumentMem, replaces⟩ := List.mem_flatMap.mp valueMem
    cases argument with
    | list items => exact noNested items argumentMem value replaces
    | _ =>
        obtain rfl := List.mem_singleton.mp replaces
        rfl

namespace Expands

variable {quoted : Bool} {text expanded : List Char}
  {arguments flat : List Value}

theorem replacements_ne_nil
    (expands : Expands quoted text arguments expanded flat) :
    ∀ argument ∈ arguments, replacements argument ≠ [] := by
  induction expands with
  | done => exact fun _ argumentMem => absurd argumentMem List.not_mem_nil
  | placeholder argument nonempty _ ih =>
      exact List.forall_mem_cons.mpr ⟨nonempty, ih⟩
  | other _ _ ih => exact ih

/-- Without lists, a mark takes the place of every mark. -/
theorem text_eq (expands : Expands quoted text arguments expanded flat)
    (noLists : ∀ argument ∈ arguments, argument.isList = false) :
    expanded = text := by
  have marksShown : arguments.map (shown fun _ => "?") =
      List.replicate arguments.length "?" := by
    rw [← List.map_const']
    exact List.map_congr_left fun argument argumentMem =>
      shown_of_isList _ (noLists argument argumentMem)
  calc
    expanded = fillFrom quoted expanded (flat.map fun _ => "?") := by
      rw [List.map_const', fillFrom_replicate]
    _ = fillFrom quoted text (arguments.map (shown fun _ => "?")) :=
      (expands.fillFrom_eq _).symm
    _ = text := by rw [marksShown, fillFrom_replicate]

end Expands

/-- A text is its own expansion when its placeholders and the arguments pair up
and no argument is a list. -/
theorem expandFrom_eq_self {quoted : Bool} {text : List Char}
    {arguments : List Value} (mismatch : ExpansionError)
    (countEq : countFrom quoted text = arguments.length)
    (noLists : ∀ argument ∈ arguments, argument.isList = false) :
    expandFrom mismatch quoted text arguments = .ok (text, arguments) := by
  have noneEmpty : ¬(arguments.take (countFrom quoted text)).any
      (fun argument => (replacements argument).isEmpty) = true := by
    simp only [List.any_eq_true, isEmpty_replacements_iff]
    rintro ⟨_, emptyMem, rfl⟩
    cases noLists _ (List.mem_of_mem_take emptyMem)
  have succeeds :
      failure? (expandFrom mismatch quoted text arguments) = none := by
    rw [failure?_expandFrom, if_neg noneEmpty, if_pos countEq]
  obtain ⟨⟨expanded, flat⟩, expandedOk⟩ := failure?_eq_none_iff.mp succeeds
  have expands := expands_of_expandFrom expandedOk
  rw [expandedOk, expands.text_eq noLists, expands.flat_eq,
    flatMap_replacements_eq_self noLists]

end Placeholders

namespace BoundSql

open Placeholders

variable {statement expanded : BoundSql}

/-- A statement is its own expansion exactly when its placeholders and arguments
pair up and no argument is a list. -/
theorem expand_eq_self_iff : statement.expand = .ok statement ↔
    statement.markCount = statement.arguments.length ∧
      ∀ argument ∈ statement.arguments, argument.isList = false := by
  constructor
  · intro unchanged
    have expands := expands_of_expand unchanged
    exact ⟨markCount_eq_length_of_expand unchanged,
      isList_of_flatMap_replacements_eq_self expands.replacements_ne_nil
        expands.flat_eq.symm⟩
  · rintro ⟨countEq, noLists⟩
    rw [markCount, length_marks] at countEq
    obtain ⟨sql, arguments⟩ := statement
    rw [expand_eq_map, expandFrom_eq_self _ countEq noLists, Except.map,
      String.ofList_toList]

/-- Expanding once more changes nothing, exactly when no list among the arguments
had a list among its items. -/
theorem expand_expanded_iff {statement expanded : BoundSql}
    (expandedOk : statement.expand = .ok expanded) :
    expanded.expand = .ok expanded ↔
      ∀ items, .list items ∈ statement.arguments →
        ∀ item ∈ items, item.isList = false := by
  have countEq := markCount_eq_length_of_expand expandedOk
  have expands := expands_of_expand expandedOk
  rw [expand_eq_self_iff, and_iff_right countEq, expands.flat_eq,
    forall_mem_flatMap_replacements_iff]

/-- A quoted mark, and lists before and after another argument. -/
def flatStatement : BoundSql :=
  ⟨"a IN (?) AND b = 'why?' AND c > ? AND d IN (?)",
    [.list [.text "x", .text "?", .text "'"], .boolean true, .list [.text "y"]]⟩

/-- The flat arguments stay where they are; a list that has come out of another
list does not. -/
theorem expand_expanded_iff_of_flatStatement :
    (∃ expanded, flatStatement.expand = .ok expanded ∧
        expanded.sql = "a IN (?, ?, ?) AND b = 'why?' AND c > ? AND d IN (?)" ∧
        expanded.expand = .ok expanded) ∧
      ∃ expanded, listedStatement.expand = .ok expanded ∧
        expanded.expand ≠ .ok expanded := by
  constructor
  · have unnested : ∀ items, .list items ∈ flatStatement.arguments →
        ∀ item ∈ items, item.isList = false := by
      simp [flatStatement, Value.isList]
    exact ⟨_, rfl, rfl,
      (expand_expanded_iff (rfl : flatStatement.expand = .ok _)).mpr unnested⟩
  · have nestedMem : Value.list [.list [.text "u", .text "v"]] ∈
        listedStatement.arguments := by
      simp [listedStatement]
    refine ⟨_, rfl, fun unchanged => ?_⟩
    have unnested :=
      (expand_expanded_iff (rfl : listedStatement.expand = .ok _)).mp unchanged
    cases unnested _ nestedMem _ List.mem_cons_self

end BoundSql

end FilterSql
