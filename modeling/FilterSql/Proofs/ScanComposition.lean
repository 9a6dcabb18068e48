import FilterSql.Proofs.ExpandedStatements

/-!
# Expanding a text part by part

Every part of a text takes as many arguments as it has placeholders and leaves the
rest to the parts after it.  A part without placeholders takes none, so it can be
put around a text before or after the text is expanded.
-/

namespace FilterSql

open Traversal

namespace Placeholders

variable {quoted : Bool} {text plain : List Char}

/-- A scan of two texts is a scan of the first with the arguments of its
placeholders, and from where that ends a scan of the second with the other
arguments. -/
theorem expandFrom_append (mismatch : ExpansionError) (quoted : Bool)
    (first second : List Char) (arguments : List Value) :
    expandFrom mismatch quoted (first ++ second) arguments = do
      let head ← expandFrom mismatch quoted first
        (arguments.take (countFrom quoted first))
      let tail ← expandFrom mismatch (quotedAfterText quoted first) second
        (arguments.drop (countFrom quoted first))
      return (head.1 ++ tail.1, head.2 ++ tail.2) := by
  induction first generalizing quoted arguments with
  | nil =>
      have scanned : quotedAfterText quoted [] = quoted := rfl
      rw [scanned, List.nil_append, countFrom, List.take_zero, List.drop_zero]
      cases expandFrom mismatch quoted second arguments <;> rfl
  | cons character first ih =>
      obtain ⟨rfl, rfl⟩ | plain := placeholder_or_plain quoted character
      · cases arguments with
        | nil =>
            rw [List.take_nil]
            rfl
        | cons argument remaining =>
            have unquoted : quotedAfter false '?' = false := rfl
            rw [List.cons_append, countFrom_placeholder, List.take_succ_cons,
              List.drop_succ_cons, expandFrom_placeholder,
              expandFrom_placeholder, quotedAfterText_cons, unquoted, ih]
            split
            case isTrue => rfl
            case isFalse =>
              simp only [bind_assoc, pure_bind, List.append_assoc]
      · rw [List.cons_append, expandFrom_of_not_isPlaceholder plain, ih,
          quotedAfterText_cons, countFrom_of_not_isPlaceholder plain,
          expandFrom_of_not_isPlaceholder plain]
        simp only [bind_assoc, pure_bind, List.cons_append]

/-- A part without placeholders is read and written again. -/
theorem expandFrom_plain_append (noMarks : countFrom quoted plain = 0)
    (mismatch : ExpansionError) (text : List Char) (arguments : List Value) :
    expandFrom mismatch quoted (plain ++ text) arguments =
      (expandFrom mismatch (quotedAfterText quoted plain) text arguments).map
        fun expansion => (plain ++ expansion.1, expansion.2) := by
  have unchanged : expandFrom mismatch quoted plain [] = .ok (plain, []) :=
    expandFrom_eq_self mismatch noMarks (by simp)
  rw [expandFrom_append, noMarks, List.take_zero, List.drop_zero, unchanged]
  cases expandFrom mismatch (quotedAfterText quoted plain) text arguments <;> rfl

theorem expandFrom_append_plain
    (noMarks : countFrom (quotedAfterText quoted text) plain = 0)
    (mismatch : ExpansionError) (arguments : List Value) :
    expandFrom mismatch quoted (text ++ plain) arguments =
      (expandFrom mismatch quoted text arguments).map
        fun expansion => (expansion.1 ++ plain, expansion.2) := by
  have atEnd : ∀ remaining,
      expandFrom mismatch (quotedAfterText quoted text) plain remaining =
        (expandFrom mismatch (quotedAfterText quoted text) [] remaining).map
          fun expansion => (plain ++ expansion.1, expansion.2) := by
    intro remaining
    have scanned := expandFrom_plain_append noMarks mismatch [] remaining
    rw [List.append_nil] at scanned
    rw [scanned]
    cases remaining <;> rfl
  have whole := expandFrom_append mismatch quoted text [] arguments
  rw [List.append_nil] at whole
  rw [whole, expandFrom_append, atEnd]
  generalize arguments.drop (countFrom quoted text) = remaining
  cases expandFrom mismatch quoted text
      (arguments.take (countFrom quoted text)) with
  | error => rfl
  | ok head =>
      cases remaining with
      | nil => simp [expandFrom, Except.map, bind, Except.bind, pure, Except.pure]
      | cons => rfl

theorem placeholders_ne_nil {number : Nat} (positive : number ≠ 0) :
    placeholders number ≠ [] := by
  obtain ⟨number, rfl⟩ := Nat.exists_eq_succ_of_ne_zero positive
  cases number with
  | zero => decide
  | succ number =>
      rw [placeholders_succ_succ]
      exact List.cons_ne_nil _ _

/-- An expansion is empty only where there was nothing to expand. -/
theorem Expands.eq_nil_iff {expanded : List Char} {arguments flat : List Value}
    (expands : Expands quoted text arguments expanded flat) :
    expanded = [] ↔ text = [] := by
  cases expands with
  | done => rfl
  | placeholder argument nonempty _ =>
      have marked : placeholders (replacements argument).length ≠ [] :=
        placeholders_ne_nil (mt List.eq_nil_of_length_eq_zero nonempty)
      simp [marked]
  | other => simp

end Placeholders

namespace BoundSql

open Placeholders

/-- Neutral texts around a text that ends outside quotes stay around its
expansion, and take no part in the numbers of a mismatch. -/
theorem expand_between {before text after : String}
    (beforeNeutral : IsNeutral before) (afterNeutral : IsNeutral after)
    (endsUnquoted : quotedAfterText false text.toList = false)
    (arguments : List Value) :
    expand ⟨before ++ text ++ after, arguments⟩ =
      (expand ⟨text, arguments⟩).map fun expanded =>
        ⟨before ++ expanded.sql ++ after, expanded.arguments⟩ := by
  have textHas : HasPlaceholders text (count text.toList) := ⟨endsUnquoted, rfl⟩
  have countEq : count (before ++ text ++ after).toList = count text.toList :=
    ((beforeNeutral.append textHas).append_neutral afterNeutral).2
  have afterNoMarks :
      countFrom (quotedAfterText false text.toList) after.toList = 0 := by
    rw [endsUnquoted]
    exact afterNeutral.2
  rw [expand_eq_map, expand_eq_map, countEq, String.toList_append,
    String.toList_append, List.append_assoc,
    expandFrom_plain_append beforeNeutral.2, beforeNeutral.1,
    expandFrom_append_plain afterNoMarks]
  cases expandFrom (.mismatch (count text.toList) arguments.length) false
      text.toList arguments with
  | error => rfl
  | ok expansion =>
      simp [Except.map, String.ofList_append, String.append_assoc]

theorem isEmpty_sql_of_expand {statement expanded : BoundSql}
    (expandedOk : statement.expand = .ok expanded) :
    expanded.sql.isEmpty = statement.sql.isEmpty := by
  have bothEmpty := (expands_of_expand expandedOk).eq_nil_iff
  rw [String.toList_eq_nil_iff, String.toList_eq_nil_iff] at bothEmpty
  rw [Bool.eq_iff_iff, String.isEmpty_iff, String.isEmpty_iff, bothEmpty]

end BoundSql

end FilterSql
