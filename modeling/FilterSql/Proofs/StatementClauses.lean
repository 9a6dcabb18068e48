import FilterSql.Proofs.FilterComposition

/-!
# The clauses of a statement

A clause is written when its text is not empty, and a query asks for it by a list
that is not empty.  The two agree, since no item of a list is an empty text:
fragments and sort items hold more than a column, and the columns that are grouped
by or accumulated have to be given an expression.  No part of a query is dropped
because its text came out empty.
-/

namespace FilterSql

open Traversal

/-- Texts are joined to nothing only when there are none. -/
theorem intercalate_eq_empty_iff {separator : String} {texts : List String}
    (nonempty : ∀ text ∈ texts, text ≠ "") :
    String.intercalate separator texts = "" ↔ texts = [] := by
  cases texts with
  | nil => simp only [String.intercalate_nil]
  | cons first rest =>
      have firstNonempty : first ≠ "" := nonempty first List.mem_cons_self
      cases rest with
      | nil => simp [String.intercalate_singleton, firstNonempty]
      | cons second rest =>
          simp [String.intercalate_cons_cons, firstNonempty]

namespace SelectParts

/-- A clause of joined texts is written when it is asked for, by a list with as
many items as there are texts. -/
theorem clause_intercalate {α : Type} {asked : List α} {texts : List String}
    (oneEach : texts = [] ↔ asked = []) (nonempty : ∀ text ∈ texts, text ≠ "")
    (keyword separator : String) :
    clause keyword (String.intercalate separator texts) =
      if asked = [] then ""
      else keyword ++ String.intercalate separator texts := by
  simp only [clause, String.isEmpty_iff, intercalate_eq_empty_iff nonempty,
    oneEach]

end SelectParts

namespace Column

variable {column : Column}

/-- Every operator adds a text of its own to the column. -/
theorem sql_fragment_ne_empty (column : Column) (raw : String) (first : Value)
    (others : List Value) (operator : Operator) :
    (column.fragment raw first others operator).sql ≠ "" := by
  cases operator <;> simp [fragment, compared, matched, tested]

theorem selection_ne_empty (given : column.expression ≠ "") :
    column.selection ≠ "" := by
  unfold selection
  split
  case isTrue => exact given
  case isFalse => simp

end Column

namespace Schema

variable {schema : Schema}

theorem ne_empty_of_rendered {α : Type} {fieldOf : α → String}
    {text : α → Column → String} {items : List α} {texts : List String}
    (itemsNonempty : ∀ item ∈ items, ∀ column,
      schema.column (fieldOf item) = .ok column → text item column ≠ "")
    (rendered : items.mapM (schema.render fieldOf text) = .ok texts) :
    ∀ rendering ∈ texts, rendering ≠ "" := by
  refine forall_of_mapM ?_ rendered
  intro item itemMem result resultOk
  obtain ⟨column, columnOk, rfl⟩ := render_eq_ok_iff.mp resultOk
  exact itemsNonempty item itemMem column columnOk

end Schema

namespace Condition

theorem sql_ne_empty_of_fragments {schema : Schema}
    {conditions : List Condition} {fragments : List Fragment}
    (fragmentsOk : Condition.fragments schema conditions = .ok fragments) :
    ∀ text ∈ fragments.map Fragment.sql, text ≠ "" := by
  have nonempty : ∀ fragment ∈ fragments, fragment.sql ≠ "" := by
    refine forall_of_mapM ?_ fragmentsOk
    intro condition _ fragment fragmentOk
    obtain ⟨column, operator, raw, _, first, others, _, _, _, _, _, rfl⟩ :=
      fragmentIn_eq_ok_iff.mp fragmentOk
    exact column.sql_fragment_ne_empty raw first others operator
  simpa using nonempty

end Condition

namespace Query

variable {query : Query} {schema : Schema}

/-- Whether the schema gives an expression to every field that the query groups by
or accumulates. -/
def ProjectsExpressions (query : Query) (schema : Schema) : Prop :=
  ∀ field ∈ query.group ++ query.accumulator, ∀ column,
    schema.column field = .ok column → column.expression ≠ ""

theorem selectItems_ne_empty (projects : query.ProjectsExpressions schema)
    {selected : List String}
    (selectOk : query.selectItems schema = .ok selected) :
    ∀ item ∈ selected, item ≠ "" := by
  rw [selectItems_eq] at selectOk
  refine Schema.ne_empty_of_rendered ?_ selectOk
  intro field fieldMem column columnOk
  exact Column.selection_ne_empty (projects field fieldMem column columnOk)

theorem groupItems_ne_empty (projects : query.ProjectsExpressions schema)
    {grouped : List String} (groupOk : query.groupItems schema = .ok grouped) :
    ∀ item ∈ grouped, item ≠ "" := by
  rw [groupItems_eq] at groupOk
  refine Schema.ne_empty_of_rendered ?_ groupOk
  intro field fieldMem
  exact projects field (List.mem_append_left _ fieldMem)

theorem orderItems_ne_empty {ordered : List String}
    (orderOk : query.orderItems schema = .ok ordered) :
    ∀ item ∈ ordered, item ≠ "" := by
  rw [orderItems_eq] at orderOk
  refine Schema.ne_empty_of_rendered ?_ orderOk
  intro entry _ column _
  simp

/-- Everything is selected exactly when the query names no field to select. -/
theorem selection_eq (projects : query.ProjectsExpressions schema)
    {selected : List String}
    (selectOk : query.selectItems schema = .ok selected) :
    (if (commaSeparated selected).isEmpty then "*"
        else commaSeparated selected) =
      if query.group = [] ∧ query.accumulator = [] then "*"
      else String.intercalate ", " selected := by
  have emptyIff : commaSeparated selected = "" ↔
      query.group = [] ∧ query.accumulator = [] := by
    rw [commaSeparated,
      intercalate_eq_empty_iff (selectItems_ne_empty projects selectOk),
      eq_nil_iff_of_mapM selectOk, List.append_eq_nil_iff]
  simp only [String.isEmpty_iff, emptyIff]
  rfl

/-- A statement has the clauses that its query asks for, each with all of its
items, in one order and with nothing between them. -/
theorem statement_clauses {query : Query} {schema : Schema} {table : String}
    {statement : BoundSql} (projects : query.ProjectsExpressions schema)
    (compiled : query.statement schema table = .ok statement) :
    ∃ selected fragments grouped ordered,
      query.selectItems schema = .ok selected ∧
        Condition.fragments schema query.conditions = .ok fragments ∧
        query.groupItems schema = .ok grouped ∧
        query.orderItems schema = .ok ordered ∧
        statement.sql =
          "SELECT " ++
            (if query.group = [] ∧ query.accumulator = [] then "*"
              else String.intercalate ", " selected) ++
            " FROM " ++ table ++
            (if query.conditions = [] then ""
              else " WHERE " ++
                String.intercalate " AND " (fragments.map Fragment.sql)) ++
            (if query.group = [] then ""
              else " GROUP BY " ++ String.intercalate ", " grouped) ++
            (if query.sort = [] then ""
              else " ORDER BY " ++ String.intercalate ", " ordered) ++
            (if query.limit = 0 then ""
              else " LIMIT " ++ IntegerText.write query.limit) ++
            (if query.skip = 0 then ""
              else " OFFSET " ++ IntegerText.write query.skip) := by
  obtain ⟨_, _, partsOk, rfl⟩ := statement_eq_ok_iff.mp compiled
  obtain ⟨selected, fragments, grouped, ordered, selectOk, fragmentsOk, groupOk,
    orderOk, rfl, _⟩ := parts_eq_ok_iff.mp partsOk
  refine ⟨selected, fragments, grouped, ordered, selectOk, fragmentsOk, groupOk,
    orderOk, ?_⟩
  have oneFragmentEach : fragments.map Fragment.sql = [] ↔
      query.conditions = [] := by
    rw [List.map_eq_nil_iff, eq_nil_iff_of_mapM fragmentsOk]
  have whereClause := SelectParts.clause_intercalate oneFragmentEach
    (Condition.sql_ne_empty_of_fragments fragmentsOk) " WHERE " " AND "
  have groupClause := SelectParts.clause_intercalate
    (eq_nil_iff_of_mapM groupOk) (groupItems_ne_empty projects groupOk)
    " GROUP BY " ", "
  have orderClause := SelectParts.clause_intercalate
    (eq_nil_iff_of_mapM orderOk) (orderItems_ne_empty orderOk) " ORDER BY " ", "
  rw [← selection_eq projects selectOk, ← whereClause, ← groupClause,
    ← orderClause]
  rfl

/-- The books of a shelf, with one field that stands for itself. -/
def shelfSchema : Schema :=
  .ofList
    [("author", ⟨some "b.author", none, none⟩),
      ("copies", ⟨some "COUNT(*)", some "copies", none⟩),
      ("year", ⟨none, some "", some .integer⟩)]

/-- A query with every clause, and an offset below zero. -/
def shelfQuery : Query :=
  ⟨[⟨"year", "gte", ["1900"]⟩, ⟨"author", "isnull", [""]⟩], [], ["author"],
    ["copies"], [⟨"copies", true⟩], 10, -5⟩

theorem statement_clauses_of_shelfQuery :
    ∃ statement, shelfQuery.statement shelfSchema "books b" = .ok statement ∧
      statement.sql =
        "SELECT b.author AS author, COUNT(*) AS copies FROM books b " ++
          "WHERE year >= ? AND b.author IS NULL GROUP BY b.author " ++
          "ORDER BY COUNT(*) DESC LIMIT 10 OFFSET -5" := by
  have projects : shelfQuery.ProjectsExpressions shelfSchema := by
    intro field fieldMem column columnOk
    rcases List.mem_pair.mp fieldMem with rfl | rfl
    · obtain rfl := Except.ok.inj columnOk
      decide
    · obtain rfl := Except.ok.inj columnOk
      decide
  obtain ⟨selected, fragments, grouped, ordered, selectOk, fragmentsOk, groupOk,
    orderOk, sqlEq⟩ := statement_clauses projects rfl
  obtain rfl := Except.ok.inj selectOk
  obtain rfl := Except.ok.inj fragmentsOk
  obtain rfl := Except.ok.inj groupOk
  obtain rfl := Except.ok.inj orderOk
  exact ⟨_, rfl, sqlEq.trans rfl⟩

/-- A field that is grouped by without an expression leaves no trace in its
statement. -/
example :
    ({ everything with group := [""] }.statement (.ofList [("", .unset)])
      "books").map BoundSql.sql = .ok "SELECT * FROM books" :=
  rfl

end Query

end FilterSql
