import FilterSql.Proofs.PlaceholderScan
import FilterSql.Proofs.Traversal

/-!
# What stands for a placeholder

Filling a statement puts a text in the place of every placeholder, one after
another, and leaves quoted marks and all other characters alone.  Expansion keeps
every argument at its placeholder: whatever text is shown for a value, the
statement with its list arguments shown as joined items is filled as the expanded
statement is.
-/

namespace FilterSql

open Traversal

namespace Placeholders

/-- A text that starts quoted or unquoted, with texts in the places of its
placeholders.  A placeholder that no text is left for stays. -/
def fillFrom : Bool → List Char → List String → List Char
  | _, [], _ => []
  | quoted, '\x27' :: rest, texts => '\x27' :: fillFrom (!quoted) rest texts
  | false, '?' :: rest, text :: texts => text.toList ++ fillFrom false rest texts
  | quoted, first :: rest, texts => first :: fillFrom quoted rest texts

def fill (text : String) (texts : List String) : String :=
  String.ofList (fillFrom false text.toList texts)

/-- What is shown for an argument: the items of a list are joined by commas. -/
def shown (render : Value → String) : Value → String
  | .list items => String.intercalate ", " (items.map render)
  | argument => render argument

theorem shown_eq (render : Value → String) (argument : Value) :
    shown render argument =
      String.intercalate ", " ((replacements argument).map render) := by
  cases argument <;> simp [shown, replacements]

theorem fillFrom_of_not_isPlaceholder {quoted : Bool} {first : Char}
    (plain : isPlaceholder quoted first = false) (rest : List Char)
    (texts : List String) :
    fillFrom quoted (first :: rest) texts =
      first :: fillFrom (quotedAfter quoted first) rest texts := by
  by_cases isQuote : first = quote
  · subst isQuote
    cases quoted <;> rfl
  · have unchanged : quotedAfter quoted first = quoted := if_neg isQuote
    rw [unchanged, fillFrom.eq_def]
    split
    case h_1 => contradiction
    case h_2 sameText => exact absurd (List.cons.inj sameText).1 isQuote
    case h_3 sameText =>
      obtain ⟨rfl, rfl⟩ := List.cons.inj sameText
      cases plain
    case h_4 sameText _ =>
      obtain ⟨rfl, rfl⟩ := List.cons.inj sameText
      rfl

/-- The marks of a list are filled with the texts of its items, joined as the
marks are. -/
theorem fillFrom_placeholders_append (texts others : List String)
    (rest : List Char) :
    fillFrom false (placeholders texts.length ++ rest) (texts ++ others) =
      (String.intercalate ", " texts).toList ++ fillFrom false rest others := by
  induction texts with
  | nil => simp [placeholders]
  | cons text texts ih =>
      -- A comma stands between two marks only, so the last mark is a case of its own.
      cases texts with
      | nil => simp [placeholders, fillFrom]
      | cons next texts =>
          have filled : fillFrom false
              ('?' :: ',' :: ' ' :: placeholders (texts.length + 1) ++ rest)
              (text :: next :: texts ++ others) =
                text.toList ++ ',' :: ' ' ::
                  fillFrom false (placeholders (texts.length + 1) ++ rest)
                    (next :: texts ++ others) :=
            rfl
          rw [List.length_cons] at ih
          rw [List.length_cons, List.length_cons, placeholders_succ_succ, filled,
            ih, String.intercalate_cons_cons]
          simp

/-- How a text that starts quoted or unquoted expands with its arguments: every
placeholder takes the marks of one argument, and that argument's values join the
flat arguments. -/
inductive Expands : Bool → List Char → List Value → List Char → List Value → Prop
  | done (quoted : Bool) : Expands quoted [] [] [] []
  | placeholder {rest : List Char} {arguments : List Value}
      {expanded : List Char} {flat : List Value} (argument : Value)
      (nonempty : replacements argument ≠ [])
      (tail : Expands false rest arguments expanded flat) :
      Expands false ('?' :: rest) (argument :: arguments)
        (placeholders (replacements argument).length ++ expanded)
        (replacements argument ++ flat)
  | other {quoted : Bool} {first : Char} {rest : List Char}
      {arguments : List Value} {expanded : List Char} {flat : List Value}
      (plain : isPlaceholder quoted first = false)
      (tail : Expands (quotedAfter quoted first) rest arguments expanded flat) :
      Expands quoted (first :: rest) arguments (first :: expanded) flat

theorem expandFrom_placeholder (mismatch : ExpansionError) (rest : List Char)
    (argument : Value) (remaining : List Value) :
    expandFrom mismatch false ('?' :: rest) (argument :: remaining) =
      if (replacements argument).isEmpty then .error .emptyList
      else do
        let tail ← expandFrom mismatch false rest remaining
        return (placeholders (replacements argument).length ++ tail.1,
          replacements argument ++ tail.2) :=
  rfl

theorem expandFrom_of_not_isPlaceholder {quoted : Bool} {first : Char}
    (plain : isPlaceholder quoted first = false) (mismatch : ExpansionError)
    (rest : List Char) (arguments : List Value) :
    expandFrom mismatch quoted (first :: rest) arguments = do
      let tail ←
        expandFrom mismatch (quotedAfter quoted first) rest arguments
      return (first :: tail.1, tail.2) := by
  cases arguments <;> simp only [expandFrom, plain] <;> rfl

theorem expands_of_expandFrom {mismatch : ExpansionError} {quoted : Bool}
    {text expanded : List Char} {arguments flat : List Value}
    (expandedOk : expandFrom mismatch quoted text arguments =
      .ok (expanded, flat)) :
    Expands quoted text arguments expanded flat := by
  induction text generalizing quoted arguments expanded flat with
  | nil =>
      cases arguments with
      | nil =>
          cases expandedOk
          exact .done quoted
      | cons => cases expandedOk
  | cons first rest ih =>
      obtain ⟨rfl, rfl⟩ | plain := placeholder_or_plain quoted first
      · cases arguments with
        | nil => cases expandedOk
        | cons argument remaining =>
            rw [expandFrom_placeholder] at expandedOk
            split at expandedOk
            case isTrue => cases expandedOk
            case isFalse hasReplacements =>
              obtain ⟨⟨tailText, tailFlat⟩, tailOk, resultEq⟩ :=
                bind_eq_ok_iff.mp expandedOk
              cases resultEq
              exact .placeholder argument (by simpa using hasReplacements)
                (ih tailOk)
      · rw [expandFrom_of_not_isPlaceholder plain] at expandedOk
        obtain ⟨⟨tailText, tailFlat⟩, tailOk, resultEq⟩ :=
          bind_eq_ok_iff.mp expandedOk
        cases resultEq
        exact .other plain (ih tailOk)

namespace Expands

variable {quoted : Bool} {text expanded : List Char}
  {arguments flat : List Value}

theorem flat_eq (expands : Expands quoted text arguments expanded flat) :
    flat = arguments.flatMap replacements := by
  induction expands with
  | done => rfl
  | placeholder argument _ _ ih => rw [List.flatMap_cons, ih]
  | other _ _ ih => exact ih

/-- A text and its expansion are filled alike, whatever is shown for a value. -/
theorem fillFrom_eq (expands : Expands quoted text arguments expanded flat)
    (render : Value → String) :
    fillFrom quoted text (arguments.map (shown render)) =
      fillFrom quoted expanded (flat.map render) := by
  induction expands with
  | done => rfl
  | @placeholder rest arguments expanded flat argument _ _ ih =>
      have itemCount : (replacements argument).length =
          ((replacements argument).map render).length :=
        (List.length_map _).symm
      have filled : fillFrom false ('?' :: rest)
          ((argument :: arguments).map (shown render)) =
            (shown render argument).toList ++
              fillFrom false rest (arguments.map (shown render)) :=
        rfl
      rw [filled, ih, List.map_append, itemCount, fillFrom_placeholders_append,
        shown_eq]
  | other plain _ ih =>
      rw [fillFrom_of_not_isPlaceholder plain,
        fillFrom_of_not_isPlaceholder plain, ih]

end Expands

/-- Marks in the places of the placeholders change nothing. -/
theorem fillFrom_replicate (quoted : Bool) (text : List Char) (number : Nat) :
    fillFrom quoted text (List.replicate number "?") = text := by
  induction text generalizing quoted number with
  | nil => rfl
  | cons first rest ih =>
      obtain ⟨rfl, rfl⟩ | plain := placeholder_or_plain quoted first
      · cases number with
        | zero => exact congrArg (List.cons '?') (ih false 0)
        | succ number => exact congrArg (List.cons '?') (ih false number)
      · rw [fillFrom_of_not_isPlaceholder plain, ih]

end Placeholders

namespace BoundSql

open Placeholders

theorem expand_eq_map (sql : String) (arguments : List Value) :
    expand ⟨sql, arguments⟩ =
      (expandFrom (.mismatch (count sql.toList) arguments.length) false sql.toList
        arguments).map fun expansion =>
          ⟨String.ofList expansion.1, expansion.2⟩ :=
  bind_pure_eq_map _ _

theorem expands_of_expand {statement expanded : BoundSql}
    (expandedOk : statement.expand = .ok expanded) :
    Expands false statement.sql.toList statement.arguments expanded.sql.toList
      expanded.arguments := by
  obtain ⟨⟨text, flat⟩, textOk, resultEq⟩ := bind_eq_ok_iff.mp expandedOk
  cases resultEq
  rw [String.toList_ofList]
  exact expands_of_expandFrom textOk

/-- Every argument stays at its placeholder: a statement is filled with what is
shown for its arguments as its expansion is filled with what is shown for the
items.  The arguments of the expansion are those of the statement with every list
opened once, and its text has marks for the items and is otherwise the same. -/
theorem fill_expand {statement expanded : BoundSql}
    (expandedOk : statement.expand = .ok expanded) :
    (∀ render : Value → String,
        fill statement.sql (statement.arguments.map (shown render)) =
          fill expanded.sql (expanded.arguments.map render)) ∧
      expanded.arguments = statement.arguments.flatMap replacements ∧
      expanded.sql =
        fill statement.sql (statement.arguments.map (shown fun _ => "?")) := by
  have expands := expands_of_expand expandedOk
  refine ⟨?_, expands.flat_eq, ?_⟩
  · intro render
    rw [fill, fill, expands.fillFrom_eq render]
  · rw [fill, expands.fillFrom_eq, List.map_const', fillFrom_replicate,
      String.ofList_toList]

/-- A quoted mark, a list between two other arguments, and a list inside a
list. -/
def listedStatement : BoundSql :=
  ⟨"a = '?' AND b > ? AND c IN (?) AND d != ? AND e IN (?)",
    [.boolean true, .list [.text "x", .text "y?"], .text "'z",
      .list [.list [.text "u", .text "v"]]]⟩

theorem fill_expand_of_listedStatement :
    ∃ expanded, listedStatement.expand = .ok expanded ∧
      expanded.sql =
        "a = '?' AND b > ? AND c IN (?, ?) AND d != ? AND e IN (?)" ∧
      fill expanded.sql (expanded.arguments.map Value.display) =
        "a = '?' AND b > true AND c IN ('x', 'y?') AND d != ''z' AND " ++
          "e IN (['u', 'v'])" := by
  obtain ⟨fills, _, sqlEq⟩ :=
    fill_expand (rfl : listedStatement.expand = .ok _)
  exact ⟨_, rfl, sqlEq, (fills Value.display).symm⟩

end BoundSql

end FilterSql
