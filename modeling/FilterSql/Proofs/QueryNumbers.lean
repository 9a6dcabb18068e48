import FilterSql.Converter
import FilterSql.Proofs.IntegerGrammar
import FilterSql.Proofs.QueryPairs
import FilterSql.Proofs.Traversal

/-!
# The numbers of a query

The limit and the skip of a query are the first values under their keys, read as
integers of 64 bits; a missing or empty value is zero.  They are the only parts of
a query that can be refused, the limit before the skip, and the reason is that of
the integer.  A converter of integers reads and refuses the same texts.
-/

namespace FilterSql

open IntegerText Traversal

namespace Parameters

variable {parameters : Parameters} {key : String}

/-- The text of a number: the first value under its key, and nothing when the key
is absent or has no value. -/
def numberText (parameters : Parameters) (key : String) : String :=
  ((parameters.getAll? key).bind List.head?).getD ""

/-- Whether a number has a value: zero without a text, else what the text stands
for. -/
def HasNumber (parameters : Parameters) (key : String) (value : Int) : Prop :=
  if parameters.numberText key = "" then value = 0
  else Denotes (parameters.numberText key).toList value

/-- Whether a number has a text that is no integer of 64 bits. -/
def RefusesNumber (parameters : Parameters) (key : String) : Prop :=
  parameters.numberText key ≠ "" ∧ ¬IsInteger (parameters.numberText key)

instance : Decidable (parameters.RefusesNumber key) :=
  inferInstanceAs (Decidable (_ ∧ _))

/-- The error for a number that is refused. -/
def numberError (parameters : Parameters) (key : String) : NumberError :=
  ⟨key, parameters.numberText key,
    refusal (leading (parameters.numberText key).toList)⟩

theorem number_eq_read (parameters : Parameters) (key : String) :
    parameters.number key =
      if parameters.numberText key = "" then .ok 0
      else (read (parameters.numberText key)).mapError fun cause =>
        ⟨key, parameters.numberText key, cause⟩ := by
  have firstEq : parameters.first? key =
      (parameters.getAll? key).bind List.head? := by
    rw [first?, getAll]
    cases parameters.getAll? key <;> rfl
  rw [number, numberText, firstEq]
  cases (parameters.getAll? key).bind List.head? with
  | none => rfl
  | some text => simp only [Option.getD_some, String.isEmpty_iff]

theorem number_eq_ok_iff {number : Int64} :
    parameters.number key = .ok number ↔
      parameters.HasNumber key number.toInt := by
  rw [number_eq_read, HasNumber]
  by_cases missing : parameters.numberText key = ""
  · rw [if_pos missing, if_pos missing, Except.ok.injEq, ← Int64.toInt_inj,
      eq_comm]
    rfl
  · rw [if_neg missing, if_neg missing, mapError_eq_ok_iff,
      read_eq_ok_iff missing]

theorem number_eq_error_iff {error : NumberError} :
    parameters.number key = .error error ↔
      parameters.RefusesNumber key ∧ error = parameters.numberError key := by
  rw [number_eq_read, RefusesNumber, numberError]
  by_cases missing : parameters.numberText key = ""
  · simp [missing]
  · rw [if_neg missing, ← failure?_eq_some_iff, failure?_mapError,
      Option.map_eq_some_iff]
    simp only [failure?_eq_some_iff, read_eq_error_iff missing]
    constructor
    · rintro ⟨_, ⟨noInteger, rfl⟩, rfl⟩
      exact ⟨⟨missing, noInteger⟩, rfl⟩
    · rintro ⟨⟨_, noInteger⟩, rfl⟩
      exact ⟨_, ⟨noInteger, rfl⟩, rfl⟩

theorem exists_number_iff :
    (∃ number, parameters.number key = .ok number) ↔
      ¬parameters.RefusesNumber key := by
  constructor
  · rintro ⟨number, numberOk⟩ refuses
    have refused := number_eq_error_iff.mpr ⟨refuses, rfl⟩
    rw [numberOk] at refused
    cases refused
  · intro accepts
    cases result : parameters.number key with
    | ok number => exact ⟨number, rfl⟩
    | error error =>
        exact absurd (number_eq_error_iff.mp result).1 accepts

end Parameters

namespace Converter

theorem convert_integer_eq_ok_iff {raw : String} (nonempty : raw ≠ "")
    {value : Value} :
    integer.convert raw = .ok value ↔
      ∃ number : Int64,
        Denotes raw.toList number.toInt ∧ value = .integer number := by
  simp only [← read_eq_ok_iff nonempty, convert, readWith]
  cases read raw <;> simp [eq_comm]

theorem convert_integer_eq_error_iff {raw : String} (nonempty : raw ≠ "")
    {error : ConversionError} :
    integer.convert raw = .error error ↔
      ¬IsInteger raw ∧ error = .integer raw (refusal (leading raw.toList)) := by
  have refusedIff : integer.convert raw = .error error ↔
      ∃ cause, read raw = .error cause ∧ error = .integer raw cause := by
    simp only [convert, readWith]
    cases read raw <;> simp [eq_comm]
  simp only [refusedIff, read_eq_error_iff nonempty]
  constructor
  · rintro ⟨_, ⟨noInteger, rfl⟩, rfl⟩
    exact ⟨noInteger, rfl⟩
  · rintro ⟨noInteger, rfl⟩
    exact ⟨_, ⟨noInteger, rfl⟩, rfl⟩

end Converter

namespace Query

variable {parameters : Parameters}

/-- The limit is read before the skip, and nothing else can be refused. -/
theorem failure?_ofParameters (parameters : Parameters) :
    failure? (ofParameters parameters) =
      (failure? (parameters.number limitKey)).or
        (failure? (parameters.number skipKey)) := by
  refine failure?_bind fun limit _ => ?_
  exact failure?_bind_pure _ _

theorem ofParameters_eq_error_iff {error : NumberError} :
    ofParameters parameters = .error error ↔
      (parameters.RefusesNumber "limit" ∧
          error = parameters.numberError "limit") ∨
        ¬parameters.RefusesNumber "limit" ∧
          parameters.RefusesNumber "skip" ∧
          error = parameters.numberError "skip" := by
  rw [← failure?_eq_some_iff, failure?_ofParameters, Option.or_eq_some_iff,
    failure?_eq_some_iff, failure?_eq_some_iff, failure?_eq_none_iff,
    Parameters.exists_number_iff, Parameters.number_eq_error_iff,
    Parameters.number_eq_error_iff]
  rfl

theorem exists_ofParameters_iff :
    (∃ query, ofParameters parameters = .ok query) ↔
      ¬parameters.RefusesNumber "limit" ∧
        ¬parameters.RefusesNumber "skip" := by
  rw [← failure?_eq_none_iff, failure?_ofParameters, Option.or_eq_none_iff,
    failure?_eq_none_iff, failure?_eq_none_iff, Parameters.exists_number_iff,
    Parameters.exists_number_iff]
  rfl

/-- The limit and the skip are read exactly: reading parameters fails for a number
whose text is no integer of 64 bits and for nothing else, and otherwise gives the
numbers that the texts stand for in unbounded arithmetic.  A converter of integers
reads alike, and so does reading digit by digit with checked steps. -/
theorem ofParameters_numbers (parameters : Parameters) :
    ((∃ query, ofParameters parameters = .ok query) ↔
        ¬parameters.RefusesNumber "limit" ∧
          ¬parameters.RefusesNumber "skip") ∧
      (∀ query, ofParameters parameters = .ok query →
        parameters.HasNumber "limit" query.limit.toInt ∧
          parameters.HasNumber "skip" query.skip.toInt) ∧
      (∀ error, ofParameters parameters = .error error ↔
        (parameters.RefusesNumber "limit" ∧
            error = parameters.numberError "limit") ∨
          ¬parameters.RefusesNumber "limit" ∧
            parameters.RefusesNumber "skip" ∧
            error = parameters.numberError "skip") ∧
      (∀ raw, raw ≠ "" →
        (∀ value, Converter.integer.convert raw = .ok value ↔
            ∃ number : Int64,
              Denotes raw.toList number.toInt ∧ value = .integer number) ∧
          ∀ error, Converter.integer.convert raw = .error error ↔
            ¬IsInteger raw ∧
              error = .integer raw (refusal (leading raw.toList))) ∧
      ∀ text, readByDigits text = read text := by
  refine ⟨exists_ofParameters_iff, ?_, fun _ => ofParameters_eq_error_iff, ?_,
    readByDigits_eq_read⟩
  · intro query queryOk
    obtain ⟨_, _, _, _, _, limitOk, skipOk⟩ :=
      ofParameters_eq_ok_iff.mp queryOk
    exact ⟨Parameters.number_eq_ok_iff.mp limitOk,
      Parameters.number_eq_ok_iff.mp skipOk⟩
  · intro raw nonempty
    exact ⟨fun _ => Converter.convert_integer_eq_ok_iff nonempty,
      fun _ => Converter.convert_integer_eq_error_iff nonempty⟩

/-- Parameters with a limit and a skip, each with a value that is not looked at. -/
def pagedParameters (limit skip : String) : Parameters :=
  .ofLists [("skip", [skip, "x"]), ("limit", [limit, "y"])]

theorem ofParameters_numbers_of_pagedParameters :
    (∃ query,
      ofParameters (pagedParameters "-0009223372036854775808"
          "+9223372036854775807") = .ok query ∧
        query.limit.toInt = -9223372036854775808 ∧
        query.skip.toInt = 9223372036854775807) ∧
      ofParameters (pagedParameters "9223372036854775808x" "x") =
        .error ⟨"limit", "9223372036854775808x", .tooLarge⟩ ∧
      ofParameters (pagedParameters "" "-1x") =
        .error ⟨"skip", "-1x", .invalidDigit⟩ ∧
      Converter.integer.convert "+" = .error (.integer "+" .invalidDigit) := by
  obtain ⟨acceptsIff, reads, _⟩ := ofParameters_numbers
    (pagedParameters "-0009223372036854775808" "+9223372036854775807")
  obtain ⟨_, _, largeIff, _⟩ :=
    ofParameters_numbers (pagedParameters "9223372036854775808x" "x")
  obtain ⟨_, _, skipIff, converts, _⟩ :=
    ofParameters_numbers (pagedParameters "" "-1x")
  refine ⟨?_, ?_, ?_, ?_⟩
  · obtain ⟨query, queryOk⟩ := acceptsIff.mpr (by decide)
    obtain ⟨limitEq, skipEq⟩ := reads query queryOk
    rw [Parameters.HasNumber, if_neg (by decide)] at limitEq skipEq
    refine ⟨query, queryOk, ?_, ?_⟩
    · exact (denotes_iff.mp limitEq).2.symm.trans (by decide)
    · exact (denotes_iff.mp skipEq).2.symm.trans (by decide)
  · exact (largeIff _).mpr (.inl ⟨by decide, by decide⟩)
  · exact (skipIff _).mpr (.inr ⟨by decide, by decide, by decide⟩)
  · exact ((converts "+" (by decide)).2 _).mpr ⟨by decide, by decide⟩

end Query

end FilterSql
