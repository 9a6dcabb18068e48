import FilterSql.Converter
import FilterSql.Proofs.TimestampReading

/-!
# Displayed values

Integers, truth values and everything of the calendar are displayed in a form
that their own converters read, however lenient the text was from which the value
came.  A text is not among them, because it is displayed in quotes.
-/

namespace FilterSql

namespace Converter

/-- A converter rereads a value when its reader rereads the result from which the
value was made. -/
theorem readWith_display {α cause : Type} {make : α → Value}
    {error : String → cause → ConversionError}
    (read : String → Except cause α) {raw : String} {value : Value}
    (rereads : ∀ result, read raw = .ok result →
      read (make result).display = .ok result)
    (converted : readWith make error (read raw) raw = .ok value) :
    readWith make error (read value.display) value.display = .ok value := by
  cases readOk : read raw with
  | error reason =>
      rw [readOk] at converted
      cases converted
  | ok result =>
      rw [readOk] at converted
      cases converted
      rw [rereads result readOk]
      rfl

theorem readBoolean_display {raw : String} {value : Value}
    (converted : readBoolean raw = .ok value) :
    readBoolean value.display = .ok value := by
  unfold readBoolean at converted
  split_ifs at converted
  · cases converted
    rfl
  · cases converted
    rfl

/-- Displaying a converted value and converting what is displayed gives the value
back in each of its parts: a timestamp has its offset again, and is not only the
same point in time. -/
theorem convert_display {converter : Converter} {raw : String} {value : Value}
    (kind : converter ∈ [integer, boolean, date, dateTime, time, timestamp])
    (converted : converter.convert raw = .ok value) :
    converter.convert value.display = .ok value := by
  simp only [List.mem_cons, List.not_mem_nil, or_false] at kind
  rcases kind with rfl | rfl | rfl | rfl | rfl | rfl
  all_goals simp only [convert] at converted ⊢
  · exact readWith_display IntegerText.read
      (fun number _ => IntegerText.read_write number) converted
  · exact readBoolean_display converted
  · refine readWith_display (fun raw => Date.read raw.toList) ?_ converted
    intro day _
    rw [Value.display, String.toList_ofList, day.read_write]
  · refine readWith_display (fun raw => DateTime.read raw.toList) ?_ converted
    intro moment _
    rw [Value.display, String.toList_ofList, moment.read_writeWith_space]
  · refine readWith_display (fun raw => TimeOfDay.read raw.toList) ?_ converted
    intro clock _
    rw [Value.display, String.toList_ofList, clock.read_write]
  · refine readWith_display (fun raw => Timestamp.read raw.toList) ?_ converted
    intro moment readOk
    obtain ⟨least, most⟩ := Timestamp.year_of_read readOk
    rw [Value.display, String.toList_ofList, Timestamp.read_write least most]

/-- A leap second with a fraction, far behind universal time. -/
def leapSecond : Timestamp :=
  ⟨⟨0, 2, 29, by decide, by decide⟩,
    ⟨23, 59, 60, by decide, by decide, by decide⟩, 123456789, -1439,
    by decide, by decide⟩

/-- A leap day in a year before the year 0. -/
def leapDay : Date :=
  ⟨-4, 2, 29, by decide, by decide⟩

/-- Both are read from lenient texts: a fraction of more than nine digits before
the minus sign of mathematics, and numbers with white space and few digits. -/
theorem convert_display_of_leaps :
    timestamp.convert "0000-02-29t23:59:60.1234567890123\u221223:59" =
        .ok (.timestamp leapSecond) ∧
      timestamp.convert "0000-02-29T23:59:60.123456789-23:59" =
        .ok (.timestamp leapSecond) ∧
      date.convert " -4- 2-29" = .ok (.date leapDay) ∧
      date.convert "-0004-02-29" = .ok (.date leapDay) := by
  have secondOk :
      timestamp.convert "0000-02-29t23:59:60.1234567890123\u221223:59" =
        .ok (.timestamp leapSecond) := by rfl
  have dayOk : date.convert " -4- 2-29" = .ok (.date leapDay) := by rfl
  exact ⟨secondOk, convert_display (by simp) secondOk,
    dayOk, convert_display (by simp) dayOk⟩

end Converter

end FilterSql
