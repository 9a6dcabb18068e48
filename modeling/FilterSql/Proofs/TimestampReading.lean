import FilterSql.TimestampText
import FilterSql.Proofs.CalendarReading

/-!
# Reading timestamps

A timestamp that was read has a year from 0 to 9999, and every timestamp with
such a year reads back when it is written: the leap second, each digit of the
fraction and the offset are kept.  Other years are written with a sign, which is
never read.
-/

namespace FilterSql

namespace DecimalText

theorem valueOf_append (first second : List Char) :
    valueOf (first ++ second) =
      10 ^ second.length * valueOf first + valueOf second := by
  rw [valueOf, Nat.ofDigitChars_append, Nat.ofDigitChars_eq_ofDigitChars_zero]
  rfl

theorem takeAllDigits_of_endsDigits {text : List Char}
    (ends : EndsDigits text) : takeAllDigits text = ([], text) := by
  have noDigits : ∀ digit ∈ ([] : List Char), digit.isDigit = true := by simp
  exact takeDigits_run noDigits (Nat.zero_le _) (Or.inr ends)

end DecimalText

namespace CalendarText

variable {α : Type} {text rest : List Char}

theorem existing_eq_ok_iff {found? : Option α} {found : α} :
    existing found? text = .ok (found, rest) ↔
      found? = some found ∧ text = rest := by
  cases found? with
  | none => simp [existing, throw, throwThe, MonadExceptOf.throw, StateT.lift]
  | some other =>
      rw [existing_some, Except.ok.injEq, Prod.mk.injEq, Option.some.injEq]

end CalendarText

namespace Date

theorem year_of_ofParts? {year : Int} {month day : Nat} {date : Date}
    (found : ofParts? year month day = some date) : date.year = year := by
  unfold ofParts? at found
  split_ifs at found
  cases found
  rfl

end Date

namespace Timestamp

open CalendarText DecimalText

variable {text rest : List Char}

/-! ### Numbers of two and four digits -/

theorem scanPair_digits {digits : List Char} (two : digits.length = 2)
    (allDigits : ∀ digit ∈ digits, digit.isDigit = true) (rest : List Char) :
    scanPair (digits ++ rest) = .ok (valueOf digits, rest) := by
  obtain ⟨first, second, rfl⟩ := List.length_eq_two.mp two
  have both : (first.isDigit && second.isDigit) = true := by
    simp [allDigits first, allDigits second]
  exact if_pos both

theorem scanFour_digits {digits : List Char} (four : digits.length = 4)
    (allDigits : ∀ digit ∈ digits, digit.isDigit = true) (rest : List Char) :
    scanFour (digits ++ rest) = .ok (valueOf digits, rest) := by
  have century : scanPair (digits.take 2 ++ (digits.drop 2 ++ rest)) =
      .ok (valueOf (digits.take 2), digits.drop 2 ++ rest) :=
    scanPair_digits (by simp [four])
      (fun digit digitMem => allDigits digit (List.mem_of_mem_take digitMem)) _
  have decade : scanPair (digits.drop 2 ++ rest) =
      .ok (valueOf (digits.drop 2), rest) :=
    scanPair_digits (by simp [four])
      (fun digit digitMem => allDigits digit (List.mem_of_mem_drop digitMem)) _
  have valueEq := valueOf_append (digits.take 2) (digits.drop 2)
  rw [List.take_append_drop, List.length_drop, four] at valueEq
  rw [← List.append_assoc, List.take_append_drop] at century
  rw [scanFour, bind_of_ok century, bind_of_ok decade, valueEq]
  rfl

theorem scanPair_padded {number : Nat} (two : number < 100)
    (rest : List Char) :
    scanPair (padded 2 number ++ rest) = .ok (number, rest) := by
  rw [scanPair_digits (length_padded (by decide) two)
    (fun _ digitMem => isDigit_of_mem_padded digitMem), valueOf_padded]

theorem scanFour_padded {number : Nat} (four : number < 10000)
    (rest : List Char) :
    scanFour (padded 4 number ++ rest) = .ok (number, rest) := by
  rw [scanFour_digits (length_padded (by decide) four)
    (fun _ digitMem => isDigit_of_mem_padded digitMem), valueOf_padded]

theorem scanPair_lt {number : Nat}
    (scanned : scanPair text = .ok (number, rest)) : number < 100 := by
  unfold scanPair at scanned
  split at scanned
  case h_1 first second rest =>
    split at scanned
    case isTrue both =>
      rw [Bool.and_eq_true, Char.isDigit_iff_toNat, Char.isDigit_iff_toNat]
        at both
      have zero : '0'.toNat = 48 := rfl
      have nine : '9'.toNat = 57 := rfl
      cases scanned
      rw [valueOf, Nat.ofDigitChars_cons, Nat.ofDigitChars_cons,
        Nat.ofDigitChars_nil]
      omega
    case isFalse => cases scanned
  case h_2 => split at scanned <;> cases scanned
  case h_3 => cases scanned

/-! ### The years that are read -/

theorem scanFour_le {year : Nat}
    (scanned : scanFour text = .ok (year, rest)) : year ≤ 9999 := by
  rw [scanFour, bind_eq_ok_iff] at scanned
  obtain ⟨century, between, centuryOk, scanned⟩ := scanned
  obtain ⟨decade, after, decadeOk, scanned⟩ := bind_eq_ok_iff.mp scanned
  have centuryLt := scanPair_lt centuryOk
  have decadeLt := scanPair_lt decadeOk
  cases scanned
  omega

theorem year_of_scanDay {date : Date}
    (scanned : scanDay text = .ok (date, rest)) :
    0 ≤ date.year ∧ date.year ≤ 9999 := by
  simp only [scanDay, bind_eq_ok_iff, existing_eq_ok_iff] at scanned
  obtain ⟨year, _, yearOk, _, _, -, month, _, -, _, _, -, day, _, -, found, -⟩ :=
    scanned
  have yearLe := scanFour_le yearOk
  rw [Date.year_of_ofParts? found]
  omega

theorem date_of_ofParts? {date : Date} {time : TimeOfDay} {nanosecond : Nat}
    {offset : Int} {timestamp : Timestamp}
    (found : ofParts? date time nanosecond offset = some timestamp) :
    timestamp.date = date := by
  unfold ofParts? at found
  split_ifs at found
  cases found
  rfl

/-- Only years of four digits without a sign are read. -/
theorem year_of_read {timestamp : Timestamp}
    (readOk : read text = .ok timestamp) :
    0 ≤ timestamp.date.year ∧ timestamp.date.year ≤ 9999 := by
  unfold read at readOk
  split_ifs at readOk with short
  obtain ⟨rest, scanned⟩ := run'_eq_ok_iff.mp readOk
  simp only [scanWhole, bind_eq_ok_iff, existing_eq_ok_iff] at scanned
  obtain ⟨date, _, dayOk, _, _, -, clock, _, -, offset, _, -, _, _, -, found, -⟩ :=
    scanned
  rw [date_of_ofParts? found]
  exact year_of_scanDay dayOk

/-! ### The parts of a written timestamp -/

theorem scanDay_write {date : Date} (least : 0 ≤ date.year)
    (most : date.year ≤ 9999) (rest : List Char) :
    scanDay (date.write ++ rest) = .ok (date, rest) := by
  have four : date.year.natAbs < 10000 := by omega
  have yearEq : (date.year.natAbs : Int) = date.year := by omega
  have monthLe := date.monthExists.2
  have dayLe := date.day_le
  have fields : date.write ++ rest = padded 4 date.year.natAbs ++
      '-' :: (padded 2 date.month ++ '-' :: (padded 2 date.day ++ rest)) := by
    simp [Date.write, writeYear, not_lt.mpr least, not_lt.mpr most]
  rw [fields, scanDay, bind_of_ok (scanFour_padded four _),
    bind_of_ok (scanMark_cons '-' _),
    bind_of_ok (scanPair_padded (by omega) _),
    bind_of_ok (scanMark_cons '-' _),
    bind_of_ok (scanPair_padded (by omega) _),
    yearEq, Date.ofParts?_parts, existing_some]

theorem scanBetween_T (rest : List Char) :
    scanBetween ('T' :: rest) = .ok ((), rest) :=
  rfl

theorem scanFraction_cons {first : Char} (noPoint : first ≠ '.')
    (rest : List Char) : scanFraction (first :: rest) = .ok (0, first :: rest) := by
  unfold scanFraction
  split
  case h_1 startsEq => exact absurd (List.cons.inj startsEq).1 noPoint
  case h_2 => rfl

/-- The fraction goes up to the first character that is no digit. -/
theorem scanFraction_padded {width number nanosecond : Nat}
    (someWidth : 0 < width) (fits : number < 10 ^ width) (widthLe : width ≤ 9)
    (scaled : number * 10 ^ (9 - width) = nanosecond)
    (ends : EndsDigits rest) :
    scanFraction ('.' :: padded width number ++ rest) =
      .ok (nanosecond, rest) := by
  have lengthEq := length_padded someWidth fits
  have taken : takeDigits 9 (padded width number ++ rest) =
      (padded width number, rest) :=
    takeDigits_padded (lengthEq.trans_le widthLe) (Or.inr ends)
  have valueEq : nanoseconds (padded width number) = nanosecond := by
    rw [nanoseconds, valueOf_padded, lengthEq]
    exact scaled
  obtain ⟨first, others, digitsEq, -⟩ := exists_cons_of_padded width number
  rw [digitsEq] at taken valueEq ⊢
  rw [List.cons_append]
  simp only [scanFraction, taken, valueEq, takeAllDigits_of_endsDigits ends]
  rfl

/-- As many groups of three digits are written as the nanoseconds need, so that
no digit is lost. -/
theorem scanFraction_writeFraction {nanosecond : Nat} {first : Char}
    (exist : nanosecond < 1000000000) (noDigit : first.isDigit = false)
    (noPoint : first ≠ '.') (rest : List Char) :
    scanFraction (writeFraction nanosecond ++ first :: rest) =
      .ok (nanosecond, first :: rest) := by
  have ends : EndsDigits (first :: rest) := endsDigits_cons.mpr noDigit
  unfold writeFraction
  split_ifs with noFraction milliseconds microseconds
  · rw [noFraction, List.nil_append, scanFraction_cons noPoint]
  · exact scanFraction_padded (by decide) (by omega) (by decide) (by omega) ends
  · exact scanFraction_padded (by decide) (by omega) (by decide) (by omega) ends
  · exact scanFraction_padded (by decide) exist (by decide) (by omega) ends

/-- An offset starts with its sign, which ends the fraction before it. -/
theorem exists_cons_of_writeOffset (offset : Int) :
    ∃ sign rest, writeOffset offset = sign :: rest ∧
      sign.isDigit = false ∧ sign ≠ '.' := by
  by_cases negative : offset < 0
  · exact ⟨'-', _, by rw [writeOffset, if_pos negative]; rfl, by decide⟩
  · exact ⟨'+', _, by rw [writeOffset, if_neg negative]; rfl, by decide⟩

theorem scanClock_write (time : TimeOfDay) {nanosecond : Nat}
    (exist : nanosecond < 1000000000) (offset : Int) :
    scanClock (time.write ++ (writeFraction nanosecond ++ writeOffset offset)) =
      .ok ((time, nanosecond), writeOffset offset) := by
  have hourLt := time.hourExists
  have minuteLt := time.minuteExists
  have secondLe := time.secondExists
  obtain ⟨sign, rest, offsetEq, noDigit, noPoint⟩ :=
    exists_cons_of_writeOffset offset
  have fields : time.write ++ (writeFraction nanosecond ++ sign :: rest) =
      padded 2 time.hour ++ ':' :: (padded 2 time.minute ++
        ':' :: (padded 2 time.second ++
          (writeFraction nanosecond ++ sign :: rest))) := by
    simp [TimeOfDay.write]
  rw [offsetEq, fields, scanClock,
    bind_of_ok (scanPair_padded (by omega) _),
    bind_of_ok (scanMark_cons ':' _),
    bind_of_ok (scanPair_padded (by omega) _),
    bind_of_ok (scanMark_cons ':' _),
    bind_of_ok (scanPair_padded (by omega) _),
    bind_of_ok (scanFraction_writeFraction exist noDigit noPoint rest),
    TimeOfDay.ofParts?_parts, bind_of_ok (existing_some time _)]
  rfl

theorem scanSignedOffset_writeOffset {offset : Int}
    (inDay : -1440 < offset ∧ offset < 1440) :
    scanSignedOffset (writeOffset offset) = .ok (offset, []) := by
  have sign : scanSign (writeOffset offset) =
      .ok (decide (offset < 0), padded 2 (offset.natAbs / 60) ++
        ':' :: (padded 2 (offset.natAbs % 60) ++ [])) := by
    rw [List.append_nil, writeOffset]
    split_ifs with negative
    · rw [decide_eq_true negative]
      rfl
    · rw [decide_eq_false negative]
      rfl
  have totalEq :
      offset.natAbs / 60 * 60 + offset.natAbs % 60 = offset.natAbs := by
    omega
  rw [scanSignedOffset, bind_of_ok sign,
    bind_of_ok (scanPair_padded (by omega) _),
    bind_of_ok (scanMark_cons ':' _),
    bind_of_ok (scanPair_padded (by omega) _),
    bind_of_ok (within_of_true _ (decide_eq_true (by omega)) _), totalEq,
    IntegerText.signed_natAbs]
  rfl

theorem scanOffset_writeOffset {offset : Int}
    (inDay : -1440 < offset ∧ offset < 1440) :
    scanOffset (writeOffset offset) = .ok (offset, []) := by
  rw [← scanSignedOffset_writeOffset inDay]
  unfold writeOffset
  split_ifs <;> rfl

/-! ### Whole timestamps -/

theorem length_le_byteCount (text : List Char) :
    text.length ≤ byteCount text := by
  have counted : ∀ size, size + text.length ≤
      text.foldl (fun size character => size + character.utf8Size) size := by
    induction text with
    | nil => intro size; rfl
    | cons first rest ih =>
        intro size
        have someByte := first.utf8Size_pos
        have restCounted := ih (size + first.utf8Size)
        rw [List.length_cons, List.foldl_cons]
        omega
  unfold byteCount
  simpa using counted 0

theorem leastSize_le_write (timestamp : Timestamp) :
    leastSize ≤ byteCount timestamp.write := by
  have year : 4 ≤ (writeYear timestamp.date.year).length := by
    have digits := le_length_padded 4 timestamp.date.year.natAbs
    unfold writeYear
    split_ifs
    · exact Nat.le_succ_of_le digits
    · exact Nat.le_succ_of_le digits
    · exact digits
  have month := le_length_padded 2 timestamp.date.month
  have day := le_length_padded 2 timestamp.date.day
  have hour := le_length_padded 2 timestamp.time.hour
  have minute := le_length_padded 2 timestamp.time.minute
  have second := le_length_padded 2 timestamp.time.second
  refine le_trans ?_ (length_le_byteCount _)
  simp only [leastSize, write, writeLocal, DateTime.writeWith, Date.write,
    TimeOfDay.write, List.length_append, List.length_cons]
  omega

/-- A timestamp with a year of four digits reads back, with its offset. -/
theorem read_write {timestamp : Timestamp} (least : 0 ≤ timestamp.date.year)
    (most : timestamp.date.year ≤ 9999) :
    read timestamp.write = .ok timestamp := by
  have parts : timestamp.write = timestamp.date.write ++
      'T' :: (timestamp.time.write ++ (writeFraction timestamp.nanosecond ++
        writeOffset timestamp.offset)) := by
    simp [write, writeLocal, DateTime.writeWith]
  have found : ofParts? timestamp.date timestamp.time timestamp.nanosecond
      timestamp.offset = some timestamp :=
    dif_pos ⟨timestamp.nanosecondExists, timestamp.offsetExists⟩
  rw [read, if_neg (not_lt.mpr (leastSize_le_write timestamp))]
  refine run'_eq_ok_iff.mpr ⟨[], ?_⟩
  rw [parts, scanWhole, bind_of_ok (scanDay_write least most _),
    bind_of_ok (scanBetween_T _),
    bind_of_ok (scanClock_write _ timestamp.nanosecondExists _)]
  dsimp only
  rw [bind_of_ok (scanOffset_writeOffset timestamp.offsetExists),
    bind_of_ok scanEnd_nil, found, existing_some]

end Timestamp

end FilterSql
