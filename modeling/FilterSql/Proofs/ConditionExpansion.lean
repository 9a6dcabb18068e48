import FilterSql.Proofs.ScanComposition
import FilterSql.SelectStatement

/-!
# Expanding the condition of a statement

The condition of a statement stands between two texts that are neutral when the
table and the other parts are.  Expanding the statement is then the same as
assembling it with the expanded condition: an expansion never empties a text, so
the clause of the condition is written before and after or not at all.
-/

namespace FilterSql

open Placeholders

namespace IntegerText

theorem isNeutral_write (number : Int64) : IsNeutral (write number) := by
  apply isNeutral_of_forall_ne
  rw [write, String.toList_ofList]
  intro character characterMem
  rcases DecimalText.eq_minus_or_isDigit_of_mem_integer characterMem with
    rfl | digit
  · decide
  · constructor
    · rintro rfl
      simp [quote] at digit
    · rintro rfl
      simp at digit

end IntegerText

namespace SelectParts

variable {keyword contents table : String} {number : Nat}

theorem hasPlaceholders_clause (keywordNeutral : IsNeutral keyword)
    (contentsHave : HasPlaceholders contents number) :
    HasPlaceholders (clause keyword contents) number := by
  unfold clause
  split
  case isTrue isEmpty =>
    rwa [String.isEmpty_iff.mp isEmpty] at contentsHave
  case isFalse => exact keywordNeutral.append contentsHave

theorem isNeutral_numberClause (keywordNeutral : IsNeutral keyword)
    (value : Int64) : IsNeutral (numberClause keyword value) := by
  unfold numberClause
  split
  case isTrue => decide
  case isFalse =>
    exact keywordNeutral.append (IntegerText.isNeutral_write value)

/-- What stands before the condition. -/
def beforeCondition (parts : SelectParts) (table : String) : String :=
  "SELECT " ++ (if parts.select.isEmpty then "*" else parts.select) ++
    " FROM " ++ table ++ if parts.condition.isEmpty then "" else " WHERE "

/-- What stands after the condition. -/
def afterCondition (parts : SelectParts) : String :=
  clause " GROUP BY " parts.group ++ clause " ORDER BY " parts.order ++
    numberClause " LIMIT " parts.limit ++ numberClause " OFFSET " parts.offset

theorem statement_eq_around (parts : SelectParts) (table : String) :
    parts.statement table =
      parts.beforeCondition table ++ parts.condition ++ parts.afterCondition := by
  have whereClause : clause " WHERE " parts.condition =
      (if parts.condition.isEmpty then "" else " WHERE ") ++ parts.condition := by
    unfold clause
    split
    case isTrue isEmpty => simp [String.isEmpty_iff.mp isEmpty]
    case isFalse => rfl
  unfold statement beforeCondition afterCondition
  rw [whereClause]
  generalize "SELECT " ++ (if parts.select.isEmpty then "*" else parts.select) ++
    " FROM " ++ table = fromTable
  simp only [String.append_assoc]

/-- Another condition leaves the texts around it alone, unless only one of the two
is empty. -/
theorem statement_with_condition {parts : SelectParts} {condition : String}
    (sameKeyword : condition.isEmpty = parts.condition.isEmpty)
    (table : String) :
    { parts with condition := condition }.statement table =
      parts.beforeCondition table ++ condition ++ parts.afterCondition := by
  rw [statement_eq_around, beforeCondition, sameKeyword]
  rfl

variable {parts : SelectParts}

theorem isNeutral_beforeCondition (tableNeutral : IsNeutral table)
    (selectNeutral : IsNeutral parts.select) :
    IsNeutral (parts.beforeCondition table) := by
  have selectionNeutral :
      IsNeutral (if parts.select.isEmpty then "*" else parts.select) := by
    split
    case isTrue => decide
    case isFalse => exact selectNeutral
  have keywordNeutral :
      IsNeutral (if parts.condition.isEmpty then "" else " WHERE ") := by
    split <;> decide
  have fromTable : IsNeutral ("SELECT " ++
      (if parts.select.isEmpty then "*" else parts.select) ++ " FROM " ++
      table) :=
    ((IsNeutral.append (by decide) selectionNeutral).append_neutral
      (by decide)).append_neutral tableNeutral
  exact fromTable.append_neutral keywordNeutral

theorem isNeutral_afterCondition (groupNeutral : IsNeutral parts.group)
    (orderNeutral : IsNeutral parts.order) :
    IsNeutral parts.afterCondition := by
  have grouped : IsNeutral (clause " GROUP BY " parts.group) :=
    hasPlaceholders_clause (by decide) groupNeutral
  have ordered : IsNeutral (clause " ORDER BY " parts.order) :=
    hasPlaceholders_clause (by decide) orderNeutral
  exact ((grouped.append_neutral ordered).append_neutral
    (isNeutral_numberClause (by decide) parts.limit)).append_neutral
      (isNeutral_numberClause (by decide) parts.offset)

/-- The placeholders of a statement are those of its condition. -/
theorem hasPlaceholders_statement (tableNeutral : IsNeutral table)
    (selectNeutral : IsNeutral parts.select)
    (conditionHas : HasPlaceholders parts.condition number)
    (groupNeutral : IsNeutral parts.group)
    (orderNeutral : IsNeutral parts.order) :
    HasPlaceholders (parts.statement table) number := by
  rw [statement_eq_around]
  exact ((isNeutral_beforeCondition tableNeutral selectNeutral).append
    conditionHas).append_neutral
      (isNeutral_afterCondition groupNeutral orderNeutral)

/-- Expanding a statement over neutral parts is expanding its condition: the
statement of the expanded condition is the expanded statement, and a failure is
the same failure with the same numbers. -/
theorem expand_statement_of_condition {parts : SelectParts} {table : String}
    (tableNeutral : IsNeutral table) (selectNeutral : IsNeutral parts.select)
    (groupNeutral : IsNeutral parts.group) (orderNeutral : IsNeutral parts.order)
    (quotesEven : Even (parts.condition.toList.count quote))
    (arguments : List Value) :
    BoundSql.expand ⟨parts.statement table, arguments⟩ =
      (BoundSql.expand ⟨parts.condition, arguments⟩).map fun condition =>
        ⟨{ parts with condition := condition.sql }.statement table,
          condition.arguments⟩ := by
  rw [statement_eq_around, BoundSql.expand_between
    (isNeutral_beforeCondition tableNeutral selectNeutral)
    (isNeutral_afterCondition groupNeutral orderNeutral)
    (endsUnquoted_iff_even.mpr quotesEven)]
  cases expandedRead : BoundSql.expand ⟨parts.condition, arguments⟩ with
  | error => rfl
  | ok condition =>
      have sameKeyword := BoundSql.isEmpty_sql_of_expand expandedRead
      simp only [Except.map, statement_with_condition sameKeyword]

/-- A quoted mark in the selection and another in the condition. -/
def notedParts : SelectParts :=
  ⟨"note, '?' AS mark", "note = '?' AND id IN (?) AND age > ?", "note",
    "note DESC", 10, -3⟩

theorem expand_statement_of_condition_of_notedParts :
    BoundSql.expand
          ⟨notedParts.statement "logs", [.list [.text "x", .text "y"], .text "z"]⟩ =
        .ok ⟨"SELECT note, '?' AS mark FROM logs WHERE note = '?' AND " ++
            "id IN (?, ?) AND age > ? GROUP BY note ORDER BY note DESC " ++
            "LIMIT 10 OFFSET -3",
          [.text "x", .text "y", .text "z"]⟩ ∧
      BoundSql.expand ⟨notedParts.statement "logs", [.text "x"]⟩ =
        .error (.mismatch 2 1) := by
  have tableNeutral : IsNeutral "logs" := by decide
  have selectNeutral : IsNeutral notedParts.select := by decide
  have groupNeutral : IsNeutral notedParts.group := by decide
  have orderNeutral : IsNeutral notedParts.order := by decide
  have quotesEven : Even (notedParts.condition.toList.count quote) := by decide
  have viaCondition := expand_statement_of_condition tableNeutral selectNeutral
    groupNeutral orderNeutral quotesEven
  exact ⟨(viaCondition _).trans rfl, (viaCondition _).trans rfl⟩

end SelectParts

end FilterSql
