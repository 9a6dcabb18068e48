import FilterSql.Proofs.Compilation

/-!
# A plan and its statement

A plan holds the parts of the statement of its query and the models of the
related records.  It fails as the statement does, and when the statement is
compiled it fails only on a relation that cannot be loaded.
-/

namespace FilterSql

open Traversal

namespace Query

variable {query : Query} {relations : Relations}

theorem models_eq_ok_iff {models : List String} :
    query.models relations = .ok models ↔
      query.relations.map relations.get? = models.map some := by
  rw [Query.models, mapM_eq_ok_iff, map_eq_map_iff]
  simp only [Relations.model_eq_ok_iff]

/-- The models fail on the first relation that is missing. -/
theorem models_eq_error_iff {error : CompileError} :
    query.models relations = .error error ↔
      ∃ relation, query.relations.find? relations.lacks = some relation ∧
        .unknownRelation relation = error := by
  have firstMissing : failure? (query.models relations) =
      (query.relations.find? relations.lacks).map .unknownRelation := by
    have steps : (fun relation => failure? (relations.model relation)) =
        Option.map .unknownRelation ∘ Option.guard relations.lacks := by
      funext relation
      rw [Relations.failure?_model, Function.comp_apply, Option.guard]
      split <;> rfl
    rw [models, failure?_mapM, steps, ← List.map_findSome?,
      List.findSome?_guard]
  rw [← failure?_eq_some_iff, firstMissing, Option.map_eq_some_iff]

theorem isSome_get?_of_models {models : List String}
    (modelsOk : query.models relations = .ok models) :
    ∀ relation ∈ query.relations, (relations.get? relation).isSome = true := by
  intro relation relationMem
  have found : relations.get? relation ∈ models.map some := by
    rw [← models_eq_ok_iff.mp modelsOk]
    exact List.mem_map_of_mem relationMem
  obtain ⟨model, _, modelEq⟩ := List.mem_map.mp found
  rw [← modelEq, Option.isSome_some]

/-- A plan fails with the error of the statement.  If the statement is compiled,
the plan has the same text and arguments and lists the models in the order of the
request, or its error names the first relation that is missing. -/
theorem plan_agrees_with_statement (query : Query) (schema : Schema)
    (relations : Relations) (table : String) :
    (∀ error, query.statement schema table = .error error →
        query.plan schema relations = .error error) ∧
      ∀ statement, query.statement schema table = .ok statement →
        ((∀ relation ∈ query.relations,
              (relations.get? relation).isSome = true) ∧
            ∃ plan, query.plan schema relations = .ok plan ∧
              plan.statement table = statement.sql ∧
              plan.arguments = statement.arguments ∧
              query.relations.map relations.get? = plan.models.map some) ∨
          ∃ relation,
            query.relations.find? relations.lacks = some relation ∧
              query.plan schema relations =
                .error (.unknownRelation relation) := by
  rw [statement_eq, plan_eq]
  cases query.parts schema with
  | error error =>
      refine ⟨?_, ?_⟩
      · rintro _ ⟨⟩
        rfl
      · rintro _ ⟨⟩
  | ok compiled =>
      refine ⟨?_, ?_⟩
      · rintro _ ⟨⟩
      · rintro _ ⟨⟩
        cases modelsRead : query.models relations with
        | error error =>
            obtain ⟨relation, missing, rfl⟩ := models_eq_error_iff.mp modelsRead
            exact .inr ⟨relation, missing, rfl⟩
        | ok models =>
            exact .inl ⟨isSome_get?_of_models modelsRead, _, rfl, rfl, rfl,
              models_eq_ok_iff.mp modelsRead⟩

/-- The fields of visits to a clinic. -/
def visitSchema : Schema :=
  .ofList [("pet", .unset), ("age", ⟨none, some "years", some .integer⟩)]

def visitRelations : Relations :=
  .ofList [("owner", "Owner"), ("vet", "Veterinarian")]

def visitQuery (age : String) (relations : List String) : Query :=
  ⟨[⟨"age", "gte", [age]⟩], relations, ["pet"], [], [⟨"age", true⟩], 10, 0⟩

/-- A refused value, a repeated relation and a missing one. -/
theorem plan_agrees_with_statement_of_visitQuery :
    (∃ error,
        (visitQuery "old" ["guest"]).statement visitSchema "visits" =
            .error error ∧
          (visitQuery "old" ["guest"]).plan visitSchema visitRelations =
            .error error) ∧
      (∃ statement plan,
        (visitQuery "3" ["vet", "owner", "vet"]).statement visitSchema "visits" =
            .ok statement ∧
          (visitQuery "3" ["vet", "owner", "vet"]).plan visitSchema
            visitRelations = .ok plan ∧
          plan.statement "visits" = statement.sql ∧
          plan.models = ["Veterinarian", "Owner", "Veterinarian"]) ∧
      (visitQuery "3" ["vet", "guest", "host"]).plan visitSchema visitRelations =
        .error (.unknownRelation "guest") := by
  refine ⟨?_, ?_, ?_⟩
  · obtain ⟨fails, _⟩ := plan_agrees_with_statement (visitQuery "old" ["guest"])
      visitSchema visitRelations "visits"
    exact ⟨_, rfl, fails _ rfl⟩
  · obtain ⟨_, compiles⟩ := plan_agrees_with_statement
      (visitQuery "3" ["vet", "owner", "vet"]) visitSchema visitRelations "visits"
    rcases compiles _ rfl with ⟨_, plan, planOk, sqlEq, _⟩ | ⟨_, missing, _⟩
    · obtain rfl := Except.ok.inj planOk
      exact ⟨_, _, rfl, rfl, sqlEq, rfl⟩
    · cases missing
  · obtain ⟨_, compiles⟩ := plan_agrees_with_statement
      (visitQuery "3" ["vet", "guest", "host"]) visitSchema visitRelations
      "visits"
    rcases compiles _ rfl with ⟨listed, _⟩ | ⟨relation, missing, planFails⟩
    · exact absurd (listed "guest" (by decide)) (by decide)
    · obtain rfl : "guest" = relation := Option.some.inj missing
      exact planFails

end Query

end FilterSql
