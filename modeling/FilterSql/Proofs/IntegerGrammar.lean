import FilterSql.Proofs.IntegerReading
import Mathlib.Data.List.Induction
import Mathlib.Data.List.TakeWhile
import Mathlib.Data.Nat.Digits.Defs

/-!
# The grammar of integers

An integer is one or more digits with at most one sign in front, and stands for a
number of unbounded arithmetic.  Reading accepts exactly the integers whose number
fits 64 bits and gives that number.  Any other text is refused for its size if the
digits right after its sign already leave the 64-bit range, else for a digit.

Reading digit by digit, with every product and sum checked against the range,
comes to the same: no step wraps around, and the first obstacle that the digits
meet is the one that is reported.
-/

namespace FilterSql

namespace DecimalText

/-- The number that digits stand for by their places: the last one counts once,
the one before it ten times, and so on. -/
def placeValue (digits : List Char) : Nat :=
  Nat.ofDigits 10 (digits.reverse.map fun digit => digit.toNat - '0'.toNat)

theorem valueOf_eq_placeValue (digits : List Char) :
    valueOf digits = placeValue digits := by
  -- The place of a digit is counted from the end.
  induction digits using List.reverseRecOn with
  | nil => rfl
  | append_singleton digits last ih =>
      rw [valueOf, Nat.ofDigitChars_append, ← valueOf, ih, Nat.ofDigitChars_cons,
        Nat.ofDigitChars_nil, placeValue, placeValue, List.reverse_concat,
        List.map_cons, Nat.ofDigits_cons, Nat.add_comm]

/-- Whether a text is one or more digits and nothing else. -/
def IsDigits (text : List Char) : Prop :=
  text ≠ [] ∧ ∀ character ∈ text, character.isDigit = true

instance : DecidablePred IsDigits :=
  fun text => decidable_of_iff (text ≠ [] ∧ text.all Char.isDigit = true) (by
    rw [List.all_eq_true, IsDigits])

theorem IsDigits.takeWhile_eq {digits : List Char} (areDigits : IsDigits digits) :
    digits.takeWhile Char.isDigit = digits :=
  List.takeWhile_eq_self_iff.mpr areDigits.2

theorem takeDigits_eq_takeWhile {most : Nat} {text : List Char}
    (fits : text.length ≤ most) :
    takeDigits most text =
      (text.takeWhile Char.isDigit, text.dropWhile Char.isDigit) := by
  induction text generalizing most with
  | nil => cases most <;> rfl
  | cons first rest ih =>
      cases most with
      | zero => simp at fits
      | succ most =>
          have recursion := @ih most (by simpa using fits)
          by_cases firstDigit : first.isDigit
          · simp [takeDigits, firstDigit, recursion]
          · simp [takeDigits, firstDigit]

theorem takeAllDigits_eq_takeWhile (text : List Char) :
    takeAllDigits text =
      (text.takeWhile Char.isDigit, text.dropWhile Char.isDigit) :=
  takeDigits_eq_takeWhile (Nat.le_refl _)

theorem run_and_rest_iff_isDigits {text : List Char} :
    (text.takeWhile Char.isDigit ≠ [] ∧ text.dropWhile Char.isDigit = []) ↔
      IsDigits text := by
  rw [List.dropWhile_eq_nil_iff]
  constructor
  · rintro ⟨nonempty, allDigits⟩
    rw [List.takeWhile_eq_self_iff.mpr allDigits] at nonempty
    exact ⟨nonempty, allDigits⟩
  · intro areDigits
    rw [areDigits.takeWhile_eq]
    exact areDigits

end DecimalText

namespace IntegerText

open DecimalText

/-- The integers, each with the number that it stands for. -/
inductive Denotes : List Char → Int → Prop where
  | unsigned {digits : List Char} (areDigits : IsDigits digits) :
      Denotes digits (placeValue digits)
  | plus {digits : List Char} (areDigits : IsDigits digits) :
      Denotes ('+' :: digits) (placeValue digits)
  | minus {digits : List Char} (areDigits : IsDigits digits) :
      Denotes ('-' :: digits) (-(placeValue digits : Int))

/-- Whether a number is in the range of 64 bits. -/
def Fits (value : Int) : Prop :=
  -9223372036854775808 ≤ value ∧ value ≤ 9223372036854775807

instance : DecidablePred Fits :=
  fun _ => inferInstanceAs (Decidable (_ ∧ _))

theorem fits_toInt (number : Int64) : Fits number.toInt :=
  ⟨number.le_toInt, Int.le_of_lt_add_one number.toInt_lt⟩

theorem toInt_ofInt_of_fits {value : Int} (fits : Fits value) :
    (Int64.ofInt value).toInt = value :=
  Int64.toInt_ofInt_of_le fits.1 (Int.lt_add_one_of_le fits.2)

/-- Whether a text is an integer whose number fits 64 bits. -/
def IsInteger (text : String) : Prop :=
  ∃ value, Denotes text.toList value ∧ Fits value

/-- The number of the digits right after the sign, whatever follows them. -/
def leading (text : List Char) : Int :=
  signed (splitSign text).1
    (placeValue ((splitSign text).2.takeWhile Char.isDigit))

/-- Why a text is refused whose leading digits have some number: for its size, or
else for what stands where a digit should. -/
def refusal (value : Int) : IntegerError :=
  if 9223372036854775807 < value then .tooLarge
  else if value < -9223372036854775808 then .tooSmall
  else .invalidDigit

theorem splitSign_cases (text : List Char) :
    (∃ rest, text = '-' :: rest ∧ splitSign text = (true, rest)) ∨
      (∃ rest, text = '+' :: rest ∧ splitSign text = (false, rest)) ∨
        splitSign text = (false, text) := by
  unfold splitSign
  split
  case h_1 rest => exact .inl ⟨rest, rfl, rfl⟩
  case h_2 rest => exact .inr (.inl ⟨rest, rfl, rfl⟩)
  case h_3 => exact .inr (.inr rfl)

theorem splitSign_of_isDigits {digits : List Char} (areDigits : IsDigits digits) :
    splitSign digits = (false, digits) := by
  obtain ⟨first, rest, rfl⟩ := List.exists_cons_of_ne_nil areDigits.1
  exact splitSign_of_isDigit (areDigits.2 first List.mem_cons_self) rest

/-- A text is an integer when digits and nothing else follow its sign. -/
theorem denotes_iff {text : List Char} {value : Int} :
    Denotes text value ↔
      IsDigits (splitSign text).2 ∧ leading text = value := by
  unfold leading
  constructor
  · intro denotes
    cases denotes with
    | unsigned areDigits =>
        rw [splitSign_of_isDigits areDigits, areDigits.takeWhile_eq]
        exact ⟨areDigits, rfl⟩
    | plus areDigits =>
        rw [splitSign, areDigits.takeWhile_eq]
        exact ⟨areDigits, rfl⟩
    | minus areDigits =>
        rw [splitSign, areDigits.takeWhile_eq]
        exact ⟨areDigits, rfl⟩
  · rintro ⟨areDigits, rfl⟩
    rw [areDigits.takeWhile_eq]
    obtain ⟨rest, rfl, split⟩ | ⟨rest, rfl, split⟩ | split :=
      splitSign_cases text
    · rw [split] at areDigits ⊢
      exact .minus areDigits
    · rw [split] at areDigits ⊢
      exact .plus areDigits
    · rw [split] at areDigits ⊢
      exact .unsigned areDigits

theorem isInteger_iff {text : String} :
    IsInteger text ↔
      Fits (leading text.toList) ∧ IsDigits (splitSign text.toList).2 := by
  constructor
  · rintro ⟨value, denotes, fits⟩
    obtain ⟨areDigits, rfl⟩ := denotes_iff.mp denotes
    exact ⟨fits, areDigits⟩
  · rintro ⟨fits, areDigits⟩
    exact ⟨_, denotes_iff.mpr ⟨areDigits, rfl⟩, fits⟩

instance : DecidablePred IsInteger :=
  fun _ => decidable_of_iff _ isInteger_iff.symm

/-- What reading gives for a number, where `complete` says whether the text is
digits and nothing else. -/
def settle (value : Int) (complete : Bool) : Except IntegerError Int64 :=
  if Fits value ∧ complete = true then .ok (Int64.ofInt value)
  else .error (refusal value)

theorem settle_eq_ok_iff {value : Int} {complete : Bool} {number : Int64} :
    settle value complete = .ok number ↔
      complete = true ∧ number.toInt = value := by
  constructor
  · intro settled
    unfold settle at settled
    split at settled
    case isTrue accepted =>
      obtain rfl := Except.ok.inj settled
      exact ⟨accepted.2, toInt_ofInt_of_fits accepted.1⟩
    case isFalse => cases settled
  · rintro ⟨rfl, rfl⟩
    rw [settle, if_pos ⟨fits_toInt number, rfl⟩, Int64.ofInt_toInt]

theorem settle_eq_error_iff {value : Int} {complete : Bool}
    {cause : IntegerError} :
    settle value complete = .error cause ↔
      ¬(Fits value ∧ complete = true) ∧ cause = refusal value := by
  unfold settle
  split
  case isTrue accepted => simp [accepted]
  case isFalse refused => simp [refused, eq_comm]

theorem settle_of_fits {value : Int} (fits : Fits value) (complete : Bool) :
    settle value complete =
      if complete then .ok (Int64.ofInt value) else .error .invalidDigit := by
  cases complete with
  | true => rw [settle, if_pos ⟨fits, rfl⟩, if_pos rfl]
  | false =>
      obtain ⟨least, most⟩ := fits
      rw [settle, if_neg (by simp), if_neg Bool.false_ne_true, refusal,
        if_neg (by omega), if_neg (by omega)]

/-- A number that does not fit is reported by its sign, whatever follows it. -/
theorem settle_of_not_fits {negative : Bool} {magnitude : Nat}
    (notFits : ¬Fits (signed negative magnitude)) (complete : Bool) :
    settle (signed negative magnitude) complete =
      .error (if negative then .tooSmall else .tooLarge) := by
  rw [settle, if_neg fun accepted => notFits accepted.1]
  unfold Fits signed at notFits
  unfold refusal signed
  cases negative with
  | false =>
      simp only [Bool.false_eq_true, if_false] at notFits ⊢
      rw [if_pos (by omega)]
  | true =>
      simp only [if_true] at notFits ⊢
      rw [if_neg (by omega), if_pos (by omega)]

theorem readUnsigned_eq_settle (negative : Bool) (text : List Char) :
    readUnsigned negative text =
      settle (signed negative (placeValue (text.takeWhile Char.isDigit)))
        (IsDigits text) := by
  have deviates : ((text.takeWhile Char.isDigit).isEmpty ||
      !(text.dropWhile Char.isDigit).isEmpty) = true ↔ ¬IsDigits text := by
    rw [← run_and_rest_iff_isDigits, not_and_or]
    simp
  have leastEq : Int64.minValue.toInt = -9223372036854775808 := rfl
  have mostEq : Int64.maxValue.toInt = 9223372036854775807 := rfl
  unfold readUnsigned
  simp only [takeAllDigits_eq_takeWhile, valueOf_eq_placeValue, deviates,
    leastEq, mostEq, ite_not]
  generalize signed negative (placeValue (text.takeWhile Char.isDigit)) = value
  by_cases fits : Fits value
  · have ⟨least, most⟩ := fits
    rw [settle_of_fits fits, if_neg (by omega), if_neg (by omega)]
    simp only [decide_eq_true_eq]
  · have refused : ¬(Fits value ∧ decide (IsDigits text) = true) :=
      fun accepted => fits accepted.1
    rw [settle, if_neg refused, refusal]
    by_cases tooLarge : 9223372036854775807 < value
    · rw [if_pos tooLarge, if_pos tooLarge]
    · have tooSmall : value < -9223372036854775808 := by
        unfold Fits at fits
        omega
      rw [if_neg tooLarge, if_neg tooLarge, if_pos tooSmall, if_pos tooSmall]

/-- Reading depends on the number right after the sign and on whether anything
else follows the sign. -/
theorem read_eq_settle {text : String} (nonempty : text ≠ "") :
    read text = settle (leading text.toList)
      (IsDigits (splitSign text.toList).2) := by
  have notEmpty : text.isEmpty = false := by simpa using nonempty
  rw [read, notEmpty, if_neg Bool.false_ne_true]
  exact readUnsigned_eq_settle _ _

/-- Reading accepts the integers that fit, with their numbers. -/
theorem read_eq_ok_iff {text : String} (nonempty : text ≠ "")
    {number : Int64} :
    read text = .ok number ↔ Denotes text.toList number.toInt := by
  rw [read_eq_settle nonempty, settle_eq_ok_iff, denotes_iff, decide_eq_true_eq,
    eq_comm]

/-- Reading refuses every other text, with the reason that its leading digits
give. -/
theorem read_eq_error_iff {text : String} (nonempty : text ≠ "")
    {cause : IntegerError} :
    read text = .error cause ↔
      ¬IsInteger text ∧ cause = refusal (leading text.toList) := by
  rw [read_eq_settle nonempty, settle_eq_error_iff, isInteger_iff,
    decide_eq_true_eq]

/-- A number of 64 bits, if it fits. -/
def checked (value : Int) : Option Int64 :=
  if Fits value then some (Int64.ofInt value) else none

/-- A number with one more digit, by a product and a sum that are both
checked. -/
def withDigit (negative : Bool) (number : Int64) (digit : Char) :
    Option Int64 := do
  let tens ← checked (number.toInt * 10)
  checked (tens.toInt + signed negative (digit.toNat - '0'.toNat))

/-- Reads one more character of a number.  A character that is no digit is
reported before the product is checked. -/
def readDigit (negative : Bool) (number : Int64) (character : Char) :
    Except IntegerError Int64 :=
  if character.isDigit then
    match withDigit negative number character with
    | some next => .ok next
    | none => .error (if negative then .tooSmall else .tooLarge)
  else .error .invalidDigit

/-- Reads an integer one digit after another. -/
def readByDigits (text : String) : Except IntegerError Int64 :=
  if text.isEmpty then .error .empty
  else
    let (negative, digits) := splitSign text.toList
    if digits.isEmpty then .error .invalidDigit
    else digits.foldlM (readDigit negative) 0

variable {negative : Bool} {number : Int64} {magnitude : Nat}

/-- The two checks of a step come to one, since the product is no further from
zero than the sum. -/
theorem withDigit_eq_checked (numberEq : number.toInt = signed negative magnitude)
    (digit : Char) :
    withDigit negative number digit =
      checked
        (signed negative (10 * magnitude + (digit.toNat - '0'.toNat))) := by
  unfold withDigit
  generalize digit.toNat - '0'.toNat = value
  rw [numberEq]
  by_cases tensFit : Fits (signed negative magnitude * 10)
  · have sumEq : signed negative magnitude * 10 + signed negative value =
        signed negative (10 * magnitude + value) := by
      unfold signed
      split <;> omega
    rw [checked, if_pos tensFit, Option.bind_eq_bind, Option.bind_some,
      toInt_ofInt_of_fits tensFit, sumEq]
  · have sumNotFits : ¬Fits (signed negative (10 * magnitude + value)) := by
      unfold Fits signed at tensFit ⊢
      split at tensFit <;> omega
    rw [checked, if_neg tensFit, checked, if_neg sumNotFits]
    rfl

theorem readDigit_of_isDigit
    (numberEq : number.toInt = signed negative magnitude) {digit : Char}
    (isDigit : digit.isDigit = true) :
    readDigit negative number digit =
      settle (signed negative (10 * magnitude + (digit.toNat - '0'.toNat)))
        true := by
  rw [readDigit, if_pos isDigit, withDigit_eq_checked numberEq, checked]
  generalize 10 * magnitude + (digit.toNat - '0'.toNat) = longer
  by_cases fits : Fits (signed negative longer)
  · rw [if_pos fits, settle_of_fits fits, if_pos rfl]
  · rw [if_neg fits, settle_of_not_fits fits]

/-- A number only moves away from zero while digits are read. -/
theorem le_ofDigitChars (magnitude : Nat) (digits : List Char) :
    magnitude ≤ Nat.ofDigitChars 10 digits magnitude := by
  have shifted : magnitude ≤ 10 ^ digits.length * magnitude :=
    Nat.le_mul_of_pos_left magnitude (Nat.pow_pos (by decide))
  rw [Nat.ofDigitChars_eq_ofDigitChars_zero]
  omega

theorem not_fits_of_le {other : Nat} (further : magnitude ≤ other)
    (notFits : ¬Fits (signed negative magnitude)) :
    ¬Fits (signed negative other) := by
  unfold Fits signed at notFits ⊢
  cases negative with
  | false =>
      simp only [Bool.false_eq_true, if_false] at notFits ⊢
      omega
  | true =>
      simp only [if_true] at notFits ⊢
      omega

/-- Reading on from a number settles what its digits and the digits that follow
come to. -/
theorem foldlM_readDigit (numberEq : number.toInt = signed negative magnitude)
    (text : List Char) :
    text.foldlM (readDigit negative) number =
      settle
        (signed negative
          (Nat.ofDigitChars 10 (text.takeWhile Char.isDigit) magnitude))
        (text.all Char.isDigit) := by
  have startFits : Fits (signed negative magnitude) :=
    numberEq ▸ fits_toInt number
  induction text generalizing number magnitude with
  | nil =>
      rw [List.foldlM_nil, List.takeWhile_nil, Nat.ofDigitChars_nil,
        settle_of_fits startFits, ← numberEq, Int64.ofInt_toInt]
      rfl
  | cons first rest ih =>
      rw [List.foldlM_cons, List.takeWhile_cons, List.all_cons]
      by_cases firstDigit : first.isDigit = true
      · rw [readDigit_of_isDigit numberEq firstDigit, if_pos firstDigit,
          Nat.ofDigitChars_cons, firstDigit, Bool.true_and]
        generalize 10 * magnitude + (first.toNat - '0'.toNat) = longer
        by_cases fits : Fits (signed negative longer)
        · rw [settle_of_fits fits, if_pos rfl]
          exact ih (toInt_ofInt_of_fits fits) fits
        · -- What follows cannot bring the number back into the range.
          have neverFits := not_fits_of_le
            (le_ofDigitChars longer (rest.takeWhile Char.isDigit)) fits
          rw [settle_of_not_fits fits, settle_of_not_fits neverFits]
          rfl
      · rw [readDigit, if_neg firstDigit, if_neg firstDigit,
          Nat.ofDigitChars_nil, settle_of_fits startFits]
        simp only [firstDigit, Bool.false_and]
        rfl

/-- No step of reading by digits wraps around: it gives what reading gives, also
where it fails. -/
theorem readByDigits_eq_read (text : String) :
    readByDigits text = read text := by
  unfold readByDigits read
  split
  case isTrue => rfl
  case isFalse =>
    generalize splitSign text.toList = parts
    obtain ⟨negative, digits⟩ := parts
    have zeroEq : (0 : Int64).toInt = signed negative 0 := by
      cases negative <;> rfl
    cases digits with
    | nil => cases negative <;> rfl
    | cons first rest =>
        have allDigits : (first :: rest).all Char.isDigit =
            decide (IsDigits (first :: rest)) := by
          rw [Bool.eq_iff_iff, List.all_eq_true, decide_eq_true_eq]
          simp [IsDigits]
        simp only [readUnsigned_eq_settle, foldlM_readDigit zeroEq,
          ← valueOf_eq_placeValue, allDigits]
        rfl

end IntegerText

end FilterSql
