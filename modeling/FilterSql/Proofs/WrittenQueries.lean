import FilterSql.Proofs.JsonReading
import FilterSql.QueryJson
import Mathlib.Tactic.MkIffOfInductiveProp

/-!
# Written queries

A query reads back from its JSON form, whatever its texts and numbers are.  A
member may be left out of the object: its part of the query is then read as an
empty list or as zero, and every other part as it was written.  Hence exactly the
members of empty lists and of zeros can be left out without a loss.
-/

namespace FilterSql

namespace Json

/-- A value without the members of some names. -/
def without (names : List String) : Json → Json
  | object members =>
      object (members.filter fun member => member.1 ∉ names)
  | value => value

/-- A record has the members of its fields that are not left out. -/
theorem record?_without {fields : List String} {members : List (String × Json)}
    (fieldsEq : members.map Prod.fst = fields) (distinct : fields.Nodup)
    (names : List String) :
    ((object members).without names).record? fields =
      some (members.map fun member =>
        if member.1 ∈ names then none else some member.2) := by
  subst fieldsEq
  rw [without, record?, List.map_map, Option.some.injEq]
  apply List.map_congr_left
  rintro ⟨name, value⟩ memberMem
  have found : members.lookup name = some value :=
    (OrderedMap.lookup_eq_some_iff_mem distinct).mpr memberMem
  have slot := OrderedMap.get?_ofList_filter distinct
    (fun name => decide (name ∉ names)) name
  by_cases nameMem : name ∈ names
  · simpa [nameMem] using slot
  · simpa [nameMem, found] using slot

theorem without_nil (value : Json) : value.without [] = value := by
  cases value <;> simp [without]

theorem Integral.without {value : Json} (integral : value.Integral)
    (names : List String) : (value.without names).Integral := by
  cases integral with
  | null => exact .null
  | boolean value => exact .boolean value
  | integer value => exact .integer value
  | string text => exact .string text
  | array integral => exact .array integral
  | object integral =>
      exact .object fun member memberMem =>
        integral member (List.mem_filter.mp memberMem).1

/-- A part is read unless it is left out. -/
theorem orElse_unless {α : Type} {read : Json → Option α} {value : Json}
    {part : α} (partRead : read value = some part) (fallback : α)
    (leftOut : Prop) [Decidable leftOut] :
    orElse fallback read (if leftOut then none else some value) =
      some (if leftOut then fallback else part) := by
  by_cases isLeftOut : leftOut
  · simp [isLeftOut, orElse]
  · simp [isLeftOut, orElse, partRead]

/-- Written items read back when each of them does. -/
theorem list?_map {α : Type} {read : Json → Option α} {write : α → Json}
    (reads : ∀ item, read (write item) = some item) (items : List α) :
    list? read (.array (items.map write)) = some items := by
  rw [list?]
  induction items with
  | nil => rfl
  | cons item items ih => simp [List.mapM_cons, reads, ih]

theorem strings?_ofStrings (texts : List String) :
    strings? (ofStrings texts) = some texts := by
  have read : ∀ text, string? (string text) = some text := fun _ => rfl
  exact list?_map read texts

theorem int64?_toInt (number : Int64) :
    int64? (.integer number.toInt) = some number := by
  rw [int64?, if_pos ⟨number.minValue_le_toInt, number.toInt_le⟩,
    Int64.ofInt_toInt]

theorem integral_map {α : Type} {write : α → Json}
    (integral : ∀ item, (write item).Integral) (items : List α) :
    (array (items.map write)).Integral := by
  refine .array fun value valueMem => ?_
  obtain ⟨item, _, rfl⟩ := List.mem_map.mp valueMem
  exact integral item

theorem integral_ofStrings (texts : List String) :
    (ofStrings texts).Integral :=
  integral_map .string texts

end Json

namespace Condition

theorem ofJson?_toJson (condition : Condition) :
    ofJson? condition.toJson = some condition := by
  have slots : condition.toJson.record? ["field", "op", "values"] = some
      [some (.string condition.field), some (.string condition.operator),
        some (.ofStrings condition.values)] := rfl
  simp only [ofJson?, slots, Json.strings?_ofStrings]
  rfl

theorem integral_toJson (condition : Condition) :
    condition.toJson.Integral := by
  refine .object ?_
  simp only [List.forall_mem_cons]
  exact ⟨.string _, .string _, Json.integral_ofStrings _, by simp⟩

end Condition

namespace SortEntry

theorem ofJson?_toJson (entry : SortEntry) :
    ofJson? entry.toJson = some entry :=
  rfl

theorem integral_toJson (entry : SortEntry) : entry.toJson.Integral := by
  refine .object ?_
  simp only [List.forall_mem_cons]
  exact ⟨.string _, .boolean _, by simp⟩

end SortEntry

namespace Query

variable {query : Query} {name : String} {names : List String}

theorem integral_toJson (query : Query) : query.toJson.Integral := by
  refine .object ?_
  simp only [List.forall_mem_cons]
  exact ⟨Json.integral_map Condition.integral_toJson _,
    Json.integral_ofStrings _, Json.integral_ofStrings _,
    Json.integral_ofStrings _, Json.integral_map SortEntry.integral_toJson _,
    .integer _, .integer _, by simp⟩

/-- The query without the parts of some names. -/
def cleared (query : Query) (names : List String) : Query where
  conditions := if "conditions" ∈ names then [] else query.conditions
  relations := if "with" ∈ names then [] else query.relations
  group := if "group" ∈ names then [] else query.group
  accumulator := if "accumulator" ∈ names then [] else query.accumulator
  sort := if "sort" ∈ names then [] else query.sort
  limit := if "limit" ∈ names then 0 else query.limit
  skip := if "skip" ∈ names then 0 else query.skip

theorem cleared_nil (query : Query) : query.cleared [] = query :=
  rfl

/-- The parts that are read are those that are not left out. -/
theorem ofJson?_without (query : Query) (names : List String) :
    ofJson? (query.toJson.without names) = some (query.cleared names) := by
  have distinct : partNames.Nodup := by decide
  have slots : (query.toJson.without names).record? partNames = some
      [if "conditions" ∈ names then none
          else some (.array (query.conditions.map Condition.toJson)),
        if "with" ∈ names then none else some (.ofStrings query.relations),
        if "group" ∈ names then none else some (.ofStrings query.group),
        if "accumulator" ∈ names then none
          else some (.ofStrings query.accumulator),
        if "sort" ∈ names then none
          else some (.array (query.sort.map SortEntry.toJson)),
        if "limit" ∈ names then none else some (.integer query.limit.toInt),
        if "skip" ∈ names then none else some (.integer query.skip.toInt)] := by
    -- The members stand in the order of the names, so nothing is looked up.
    refine Json.record?_without ?_ distinct names
    rfl
  simp only [ofJson?, slots,
    Json.orElse_unless (Json.list?_map Condition.ofJson?_toJson _),
    Json.orElse_unless (Json.list?_map SortEntry.ofJson?_toJson _),
    Json.orElse_unless (Json.strings?_ofStrings _),
    Json.orElse_unless (Json.int64?_toInt _)]
  rfl

/-- Whether the part of a query that has a name is an empty list or zero; a name
of no part asks for nothing. -/
@[mk_iff]
structure IsBlank (query : Query) (name : String) : Prop where
  conditions : name = "conditions" → query.conditions = []
  relations : name = "with" → query.relations = []
  group : name = "group" → query.group = []
  accumulator : name = "accumulator" → query.accumulator = []
  sort : name = "sort" → query.sort = []
  limit : name = "limit" → query.limit = 0
  skip : name = "skip" → query.skip = 0

instance : Decidable (query.IsBlank name) :=
  decidable_of_iff' _ (isBlank_iff query name)

/-- A part that is replaced under some names stays the same when there is nothing
to replace under any of them. -/
theorem unless_mem_eq_self_iff {α : Type} {fallback part : α} :
    (if name ∈ names then fallback else part) = part ↔
      ∀ other ∈ names, other = name → part = fallback := by
  rw [ite_eq_right_iff, eq_comm]
  constructor
  · rintro blank _ nameMem rfl
    exact blank nameMem
  · intro blank nameMem
    exact blank name nameMem rfl

/-- Clearing changes nothing exactly when it clears blank parts only. -/
theorem cleared_eq_self_iff :
    query.cleared names = query ↔ ∀ name ∈ names, query.IsBlank name := by
  obtain ⟨conditions, relations, group, accumulator, sort, limit, skip⟩ := query
  simp only [cleared, Query.mk.injEq, unless_mem_eq_self_iff, isBlank_iff,
    imp_and, forall_and]

/-- A text with members left out is read like the value that it stands for. -/
theorem ofText?_without (query : Query) (names : List String) :
    (Json.ofText? (query.toJson.without names).text).bind ofJson? =
      some (query.cleared names) := by
  rw [Json.ofText?_text (query.integral_toJson.without names),
    Option.bind_some, ofJson?_without]

/-- The JSON form of a query is faithful, whatever the query holds.  It reads
back, as a value and as a text, as the query itself.  Members may be left out of
it: the query is still what is read exactly when all of them belong to parts
that are empty lists or zero. -/
theorem ofText?_text_iff_isBlank (query : Query) :
    ofJson? query.toJson = some query ∧
    (Json.ofText? query.toJson.text).bind ofJson? = some query ∧
    ∀ names : List String,
      (ofJson? (query.toJson.without names) = some query ↔
        ∀ name ∈ names, query.IsBlank name) ∧
      ((Json.ofText? (query.toJson.without names).text).bind ofJson? =
          some query ↔
        ∀ name ∈ names, query.IsBlank name) := by
  refine ⟨?_, ?_, fun names => ⟨?_, ?_⟩⟩
  · have valueRead := query.ofJson?_without []
    rwa [Json.without_nil, cleared_nil] at valueRead
  · have textRead := query.ofText?_without []
    rwa [Json.without_nil, cleared_nil] at textRead
  · rw [ofJson?_without, Option.some.injEq, cleared_eq_self_iff]
  · rw [ofText?_without, Option.some.injEq, cleared_eq_self_iff]

/-- A query with a condition that is not valid, a control character in a field and
the least skip there is. -/
def oddQuery : Query :=
  ⟨[⟨"é\"", "?", []⟩], [], ["\x01"], [], [], 0, Int64.minValue⟩

/-- Four parts of the odd query are blank, so their members are not missed. -/
theorem ofText?_text_iff_isBlank_of_oddQuery :
    let written := oddQuery.toJson.without ["with", "accumulator", "sort", "limit"]
    written.text =
      "\x7b\"conditions\":[\x7b\"field\":\"é\\\"\",\"op\":\"?\",\"values\":[]\x7d]," ++
        "\"group\":[\"\\u0001\"],\"skip\":-9223372036854775808\x7d" ∧
    (∀ name ∈ ["with", "accumulator", "sort", "limit"], oddQuery.IsBlank name) ∧
    ofJson? written = some oddQuery ∧
    (Json.ofText? written.text).bind ofJson? = some oddQuery := by
  have blank : ∀ name ∈ ["with", "accumulator", "sort", "limit"],
      oddQuery.IsBlank name := by
    decide
  obtain ⟨_, _, lossless⟩ := ofText?_text_iff_isBlank oddQuery
  refine ⟨by decide +kernel, blank, ?_, ?_⟩
  · exact (lossless _).1.mpr blank
  · exact (lossless _).2.mpr blank

end Query

end FilterSql
