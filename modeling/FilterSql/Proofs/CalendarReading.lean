import FilterSql.CalendarText
import FilterSql.Proofs.IntegerReading
import FilterSql.Proofs.Traversal
import Mathlib.Data.Nat.Digits.Defs

/-!
# Reading dates and times

A written date, time of day or both together reads back, for every year, day and
second that exists.  The reader is a sequence of steps, so that each of them is
shown to take what the writer put down for it and to leave the rest of the text.
-/

namespace FilterSql

namespace DecimalText

/-- A text that no digit starts, so that a run of digits ends before it. -/
def EndsDigits (text : List Char) : Prop :=
  ∀ next ∈ text.head?, next.isDigit = false

theorem endsDigits_cons {first : Char} {rest : List Char} :
    EndsDigits (first :: rest) ↔ first.isDigit = false := by
  simp [EndsDigits]

theorem isDigit_of_mem_padded {width number : Nat} {digit : Char}
    (digitMem : digit ∈ padded width number) : digit.isDigit = true := by
  rcases List.mem_append.mp digitMem with filling | digitMem
  · rw [List.eq_of_mem_replicate filling]
    rfl
  · exact isDigit_of_mem_natural digitMem

theorem exists_cons_of_padded (width number : Nat) :
    ∃ first rest, padded width number = first :: rest ∧
      first.isDigit = true := by
  have nonempty : padded width number ≠ [] :=
    List.append_ne_nil_of_right_ne_nil _ (natural_ne_nil number)
  obtain ⟨first, rest, digitsEq⟩ := List.exists_cons_of_ne_nil nonempty
  have firstMem : first ∈ padded width number := by
    simp [digitsEq]
  exact ⟨first, rest, digitsEq, isDigit_of_mem_padded firstMem⟩

/-- Zeros in front do not change what digits stand for. -/
theorem valueOf_padded (width number : Nat) :
    valueOf (padded width number) = number := by
  rw [valueOf, padded, Nat.ofDigitChars_append, Nat.ofDigitChars_replicate_zero,
    Nat.mul_zero]
  exact valueOf_natural number

theorem le_length_padded (width number : Nat) :
    width ≤ (padded width number).length := by
  simp only [padded, List.length_append, List.length_replicate]
  omega

/-- A number that fits the width takes exactly the width. -/
theorem length_padded {width number : Nat} (someWidth : 0 < width)
    (fits : number < 10 ^ width) : (padded width number).length = width := by
  have lengthLe : (natural number).length ≤ width :=
    (Nat.length_toDigits_le_iff (by decide) someWidth).mpr fits
  simp only [padded, List.length_append, List.length_replicate]
  omega

theorem takeDigits_padded {most width number : Nat} {rest : List Char}
    (fits : (padded width number).length ≤ most)
    (ends : (padded width number).length = most ∨ EndsDigits rest) :
    takeDigits most (padded width number ++ rest) =
      (padded width number, rest) :=
  takeDigits_run (fun _ digitMem => isDigit_of_mem_padded digitMem) fits ends

end DecimalText

namespace WhiteSpace

theorem isBlank_of_isDigit {character : Char}
    (digit : character.isDigit = true) : isBlank character = false := by
  have range : 48 ≤ character.toNat ∧ character.toNat ≤ 57 :=
    Char.isDigit_iff_toNat.mp digit
  simp only [isBlank, ranges, List.any_cons, List.any_nil, Bool.or_false,
    Bool.or_eq_false_iff, Bool.and_eq_false_iff, decide_eq_false_iff_not]
  omega

theorem skip_cons {first : Char} (notBlank : isBlank first = false)
    (rest : List Char) : skip (first :: rest) = first :: rest := by
  rw [skip, List.dropWhile_cons_of_neg (by simp [notBlank])]

end WhiteSpace

namespace CalendarText

open DecimalText

variable {α β : Type} {text rest : List Char}

/-- A step that reads is followed by the steps after it, on what it left. -/
theorem bind_of_ok {scan : Scanner α} {next : α → Scanner β} {value : α}
    (scanned : scan text = .ok (value, rest)) :
    (scan >>= next) text = next value rest := by
  change (scan text >>= fun step => next step.1 step.2) = next value rest
  rw [scanned]
  rfl

theorem bind_eq_ok_iff {scan : Scanner α} {next : α → Scanner β}
    {result : β} :
    (scan >>= next) text = .ok (result, rest) ↔
      ∃ value between, scan text = .ok (value, between) ∧
        next value between = .ok (result, rest) := by
  refine Traversal.bind_eq_ok_iff.trans ⟨?_, ?_⟩
  · rintro ⟨⟨value, between⟩, scanned, nextOk⟩
    exact ⟨value, between, scanned, nextOk⟩
  · rintro ⟨value, between, scanned, nextOk⟩
    exact ⟨(value, between), scanned, nextOk⟩

/-- A reader gives what its steps give, whatever they leave. -/
theorem run'_eq_ok_iff {scan : Scanner α} {value : α} :
    scan.run' text = .ok value ↔ ∃ rest, scan text = .ok (value, rest) := by
  change (Prod.fst <$> scan text) = .ok value ↔ _
  cases scan text with
  | error cause => simp [Functor.map, Except.map]
  | ok step =>
      obtain ⟨found, after⟩ := step
      simp [Functor.map, Except.map]

theorem scanMark_cons (mark : Char) (rest : List Char) :
    scanMark mark (mark :: rest) = .ok ((), rest) :=
  if_pos rfl

theorem scanBlank_cons {first : Char}
    (notBlank : WhiteSpace.isBlank first = false) (rest : List Char) :
    scanBlank (first :: rest) = .ok ((), first :: rest) := by
  rw [scanBlank, WhiteSpace.skip_cons notBlank]

theorem scanBlank_padded (width number : Nat) (rest : List Char) :
    scanBlank (padded width number ++ rest) =
      .ok ((), padded width number ++ rest) := by
  obtain ⟨first, others, digitsEq, digit⟩ := exists_cons_of_padded width number
  rw [digitsEq]
  exact scanBlank_cons (WhiteSpace.isBlank_of_isDigit digit) _

theorem within_of_true (value : α) {holds : Bool} (inRange : holds = true)
    (text : List Char) : within value holds text = .ok (value, text) := by
  rw [within, if_pos inRange]
  rfl

theorem scanEnd_nil : scanEnd [] = .ok ((), []) :=
  rfl

theorem existing_some (found : α) (text : List Char) :
    existing (some found) text = .ok (found, text) :=
  rfl

theorem scanNumber_padded {most width number : Nat}
    (fits : (padded width number).length ≤ most)
    (ends : (padded width number).length = most ∨ EndsDigits rest) :
    scanNumber most (padded width number ++ rest) = .ok (number, rest) := by
  have taken := takeDigits_padded fits ends
  obtain ⟨first, others, digitsEq, -⟩ := exists_cons_of_padded width number
  have valueEq := valueOf_padded width number
  rw [digitsEq] at taken valueEq ⊢
  rw [scanNumber, if_neg (by simp), taken]
  simp only [valueEq]

theorem scanLongNumber_padded (width number : Nat) (ends : EndsDigits rest) :
    scanLongNumber (padded width number ++ rest) = .ok (number, rest) :=
  scanNumber_padded (by simp) (Or.inr ends)

/-- A field reads back whatever follows, since it takes two digits. -/
theorem scanField_padded {least most number : Nat}
    (leastLe : least ≤ number) (leMost : number ≤ most) (two : most < 100)
    (rest : List Char) :
    scanField least most (padded 2 number ++ rest) = .ok (number, rest) := by
  have lengthEq : (padded 2 number).length = 2 :=
    length_padded (by decide) (by omega)
  rw [scanField, bind_of_ok (scanBlank_padded 2 number rest),
    bind_of_ok (scanNumber_padded lengthEq.le (Or.inl lengthEq)),
    within_of_true number (by simp [leastLe, leMost])]

theorem scanMagnitude_of_ok {negative : Bool} {scan : Scanner Nat}
    {magnitude : Nat} {year : Int} (scanned : scan text = .ok (magnitude, rest))
    (yearEq : IntegerText.signed negative magnitude = year) :
    scanMagnitude negative scan text = .ok (year, rest) := by
  rw [scanMagnitude, bind_of_ok scanned, yearEq]
  rfl

theorem scanSignedYear_of_isDigit {first : Char} (digit : first.isDigit = true)
    (rest : List Char) :
    scanSignedYear (first :: rest) =
      scanMagnitude false (scanNumber 4) (first :: rest) := by
  unfold scanSignedYear
  split
  case h_1 startsEq =>
    rw [(List.cons.inj startsEq).1] at digit
    simp at digit
  case h_2 startsEq =>
    rw [(List.cons.inj startsEq).1] at digit
    simp at digit
  case h_3 => rfl

/-- Outside 0 to 9999 the sign lets a year have any number of digits; within, it
has four digits and no sign. -/
theorem scanSignedYear_writeYear (year : Int) (ends : EndsDigits rest) :
    scanSignedYear (writeYear year ++ rest) = .ok (year, rest) := by
  have long := scanLongNumber_padded 4 year.natAbs ends
  have signedEq := IntegerText.signed_natAbs year
  unfold writeYear
  split_ifs with negative large
  · rw [decide_eq_true negative] at signedEq
    exact scanMagnitude_of_ok long signedEq
  · rw [decide_eq_false negative] at signedEq
    exact scanMagnitude_of_ok long signedEq
  · rw [decide_eq_false negative] at signedEq
    have lengthEq : (padded 4 year.natAbs).length = 4 :=
      length_padded (by decide) (by omega)
    have short : scanNumber 4 (padded 4 year.natAbs ++ rest) =
        .ok (year.natAbs, rest) :=
      scanNumber_padded lengthEq.le (Or.inl lengthEq)
    obtain ⟨first, others, digitsEq, digit⟩ :=
      exists_cons_of_padded 4 year.natAbs
    rw [digitsEq, List.cons_append] at short ⊢
    rw [scanSignedYear_of_isDigit digit]
    exact scanMagnitude_of_ok short signedEq

theorem scanBlank_writeYear (year : Int) (rest : List Char) :
    scanBlank (writeYear year ++ rest) = .ok ((), writeYear year ++ rest) := by
  unfold writeYear
  split_ifs
  · exact scanBlank_cons (by decide) _
  · exact scanBlank_cons (by decide) _
  · exact scanBlank_padded 4 year.natAbs rest

end CalendarText

open CalendarText DecimalText

namespace Date

variable (date : Date)

theorem monthExists : 1 ≤ date.month ∧ date.month ≤ 12 := by
  have someDay : 1 ≤ Calendar.daysInMonth date.year date.month :=
    date.dayExists.1.trans date.dayExists.2
  by_contra outside
  have noDay : Calendar.daysInMonth date.year date.month = 0 := by
    simp only [Calendar.daysInMonth, List.mem_cons, List.not_mem_nil, or_false]
    rw [if_neg (by omega), if_neg (by omega), if_neg (by omega)]
  omega

theorem day_le : date.day ≤ 31 := by
  refine date.dayExists.2.trans ?_
  unfold Calendar.daysInMonth
  split_ifs <;> omega

theorem scanYear_writeYear {rest : List Char} (ends : EndsDigits rest) :
    scanYear (writeYear date.year ++ rest) = .ok (date.year, rest) := by
  have inRange : (decide (Int32.minValue.toInt ≤ date.year) &&
      decide (date.year ≤ Int32.maxValue.toInt)) = true := by
    have yearExists := date.yearExists
    have least : Int32.minValue.toInt = -2147483648 := rfl
    have most : Int32.maxValue.toInt = 2147483647 := rfl
    rw [Bool.and_eq_true, decide_eq_true_eq, decide_eq_true_eq]
    omega
  rw [scanYear, bind_of_ok (scanBlank_writeYear date.year rest),
    bind_of_ok (scanSignedYear_writeYear date.year ends),
    within_of_true date.year inRange]

theorem scanDate_write (rest : List Char) :
    scanDate (date.write ++ rest) =
      .ok ((date.year, date.month, date.day), rest) := by
  have fields : date.write ++ rest = writeYear date.year ++
      '-' :: (padded 2 date.month ++ '-' :: (padded 2 date.day ++ rest)) := by
    simp [write]
  have ends : EndsDigits
      ('-' :: (padded 2 date.month ++ '-' :: (padded 2 date.day ++ rest))) :=
    endsDigits_cons.mpr rfl
  rw [fields, scanDate, bind_of_ok (scanYear_writeYear date ends),
    bind_of_ok (scanMark_cons '-' _),
    bind_of_ok
      (scanField_padded date.monthExists.1 date.monthExists.2 (by decide) _),
    bind_of_ok (scanMark_cons '-' _),
    bind_of_ok
      (scanField_padded date.dayExists.1 date.day_le (by decide) _)]
  rfl

/-- A written date reads back. -/
theorem read_write : read date.write = .ok date := by
  have scanned := date.scanDate_write []
  rw [List.append_nil] at scanned
  refine run'_eq_ok_iff.mpr ⟨[], ?_⟩
  rw [scanWhole, bind_of_ok scanned]
  dsimp only
  rw [bind_of_ok scanEnd_nil, ofParts?_parts, existing_some]

end Date

namespace TimeOfDay

variable (time : TimeOfDay)

theorem scanTime_write (rest : List Char) :
    scanTime (time.write ++ rest) =
      .ok ((time.hour, time.minute, time.second), rest) := by
  have fields : time.write ++ rest = padded 2 time.hour ++
      ':' :: (padded 2 time.minute ++
        ':' :: (padded 2 time.second ++ rest)) := by
    simp [write]
  rw [fields, scanTime,
    bind_of_ok (scanField_padded (Nat.zero_le _)
      (Nat.le_of_lt_succ time.hourExists) (by decide) _),
    bind_of_ok (scanMark_cons ':' _),
    bind_of_ok (scanField_padded (Nat.zero_le _)
      (Nat.le_of_lt_succ time.minuteExists) (by decide) _),
    bind_of_ok (scanMark_cons ':' _),
    bind_of_ok (scanField_padded (Nat.zero_le _)
      time.secondExists (by decide) _)]
  rfl

/-- A written time of day reads back, a leap second, too. -/
theorem read_write : read time.write = .ok time := by
  have scanned := time.scanTime_write []
  rw [List.append_nil] at scanned
  refine run'_eq_ok_iff.mpr ⟨[], ?_⟩
  rw [scanWhole, bind_of_ok scanned]
  dsimp only
  rw [bind_of_ok scanEnd_nil, ofParts?_parts, existing_some]

end TimeOfDay

namespace DateTime

/-- The space before a time of day is read as white space. -/
theorem scanBlank_space_write (time : TimeOfDay) :
    scanBlank (' ' :: time.write) = .ok ((), time.write) := by
  have skipped : scanBlank (' ' :: time.write) = scanBlank time.write := by
    rw [scanBlank, scanBlank, WhiteSpace.skip, WhiteSpace.skip,
      List.dropWhile_cons_of_pos (by decide)]
  rw [skipped, TimeOfDay.write, List.append_assoc]
  exact scanBlank_padded 2 time.hour _

/-- A date and a time of day that are written with a space between them read
back. -/
theorem read_writeWith_space (dateTime : DateTime) :
    read (dateTime.writeWith ' ') = .ok dateTime := by
  have scanned := dateTime.time.scanTime_write []
  rw [List.append_nil] at scanned
  refine run'_eq_ok_iff.mpr ⟨[], ?_⟩
  rw [scanWhole, writeWith, bind_of_ok (dateTime.date.scanDate_write _)]
  dsimp only
  rw [bind_of_ok (scanBlank_space_write dateTime.time), bind_of_ok scanned]
  dsimp only
  rw [bind_of_ok scanEnd_nil, Date.ofParts?_parts,
    bind_of_ok (existing_some _ _), TimeOfDay.ofParts?_parts,
    bind_of_ok (existing_some _ _)]
  rfl

end DateTime

end FilterSql
