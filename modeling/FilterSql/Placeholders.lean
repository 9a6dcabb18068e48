import FilterSql.Filter

/-!
# Placeholders

A question mark outside single quotes is a placeholder.  Expanding a statement
gives every item of a list argument a placeholder of its own; lists inside lists
stay as they are.
-/

namespace FilterSql

/-- Why a statement cannot be expanded. -/
inductive ExpansionError where
  | mismatch (placeholders arguments : Nat)
  | emptyList
  deriving DecidableEq, Repr

namespace ExpansionError

def message : ExpansionError → String
  | mismatch placeholders arguments =>
      "statement has " ++ String.ofList (DecimalText.natural placeholders) ++
        " placeholders but " ++ String.ofList (DecimalText.natural arguments) ++
        " arguments"
  | emptyList => "cannot expand an empty list argument"

end ExpansionError

namespace Placeholders

/-- The mark that opens and closes a quotation. -/
def quote : Char := '\x27'

/-- Whether the text after a character is quoted, given whether the character
is. -/
def quotedAfter (quoted : Bool) (character : Char) : Bool :=
  if character = quote then !quoted else quoted

def isPlaceholder (quoted : Bool) (character : Char) : Bool :=
  character = '?' && !quoted

/-- The number of placeholders of a text that starts quoted or unquoted. -/
def countFrom (quoted : Bool) : List Char → Nat
  | [] => 0
  | first :: rest =>
      (if isPlaceholder quoted first then 1 else 0) +
        countFrom (quotedAfter quoted first) rest

def count (text : List Char) : Nat :=
  countFrom false text

/-- The arguments that replace an argument: the items of a list, or the argument
itself. -/
def replacements : Value → List Value
  | .list items => items
  | argument => [argument]

def placeholders (number : Nat) : List Char :=
  List.intercalate [',', ' '] (List.replicate number ['?'])

/-- Expands a text that starts quoted or unquoted; `mismatch` is the error when
the placeholders and the arguments do not pair up. -/
def expandFrom (mismatch : ExpansionError) (quoted : Bool) :
    List Char → List Value → Except ExpansionError (List Char × List Value)
  | [], [] => .ok ([], [])
  | [], _ :: _ => .error mismatch
  | first :: rest, arguments =>
      if isPlaceholder quoted first then
        match arguments with
        | [] => .error mismatch
        | argument :: remaining =>
            if (replacements argument).isEmpty then .error .emptyList
            else do
              let (text, flat) ← expandFrom mismatch quoted rest remaining
              return (placeholders (replacements argument).length ++ text,
                replacements argument ++ flat)
      else do
        let (text, flat) ←
          expandFrom mismatch (quotedAfter quoted first) rest arguments
        return (first :: text, flat)

end Placeholders

namespace BoundSql

/-- Gives every item of a list argument a placeholder of its own. -/
def expand (statement : BoundSql) : Except ExpansionError BoundSql := do
  let text := statement.sql.toList
  let mismatch :=
    .mismatch (Placeholders.count text) statement.arguments.length
  let (expanded, flat) ←
    Placeholders.expandFrom mismatch false text statement.arguments
  return ⟨String.ofList expanded, flat⟩

end BoundSql

end FilterSql
