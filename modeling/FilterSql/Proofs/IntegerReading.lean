import FilterSql.IntegerText

/-!
# Reading integers

A written integer reads back, over the whole 64-bit range.
-/

namespace FilterSql

namespace DecimalText

theorem takeAllDigits_natural (number : Nat) :
    takeAllDigits (natural number) = (natural number, []) := by
  have allDigits : ∀ digit ∈ natural number, digit.isDigit = true :=
    fun digit digitMem => isDigit_of_mem_natural digitMem
  have taken : takeDigits (natural number).length (natural number ++ []) =
      (natural number, []) :=
    takeDigits_run allDigits (Nat.le_refl _) (Or.inl rfl)
  rw [List.append_nil] at taken
  exact taken

end DecimalText

namespace IntegerText

theorem splitSign_of_isDigit {first : Char} (digit : first.isDigit = true)
    (rest : List Char) : splitSign (first :: rest) = (false, first :: rest) := by
  have notMinus : first ≠ '-' := by
    rintro rfl
    simp at digit
  have notPlus : first ≠ '+' := by
    rintro rfl
    simp at digit
  unfold splitSign
  split
  case h_1 startsEq => exact absurd (List.cons.inj startsEq).1 notMinus
  case h_2 startsEq => exact absurd (List.cons.inj startsEq).1 notPlus
  case h_3 => rfl

theorem splitSign_integer (number : Int) :
    splitSign (DecimalText.integer number) =
      (decide (number < 0), DecimalText.natural number.natAbs) := by
  cases number with
  | ofNat magnitude =>
      obtain ⟨first, rest, digitsEq, digit⟩ :=
        DecimalText.exists_natural_eq_cons magnitude
      have nonnegative : ¬ Int.ofNat magnitude < 0 := by simp
      simp only [DecimalText.integer, Int.natAbs_ofNat', digitsEq,
        splitSign_of_isDigit digit, nonnegative, decide_false]
  | negSucc magnitude =>
      simp [DecimalText.integer, splitSign, Int.negSucc_lt_zero]

theorem signed_natAbs (number : Int) :
    signed (decide (number < 0)) number.natAbs = number := by
  unfold signed
  split
  case isTrue isNegative =>
    have : number < 0 := of_decide_eq_true isNegative
    omega
  case isFalse notNegative =>
    have : ¬ number < 0 := fun negative =>
      notNegative (decide_eq_true negative)
    omega

theorem readUnsigned_natural (negative : Bool) (magnitude : Nat)
    (least : Int64.minValue.toInt ≤ signed negative magnitude)
    (most : signed negative magnitude ≤ Int64.maxValue.toInt) :
    readUnsigned negative (DecimalText.natural magnitude) =
      .ok (Int64.ofInt (signed negative magnitude)) := by
  simp only [readUnsigned, DecimalText.takeAllDigits_natural,
    DecimalText.valueOf_natural]
  rw [if_neg (Int.not_lt.mpr most), if_neg (Int.not_lt.mpr least),
    if_neg (by simp [DecimalText.natural_ne_nil])]

theorem write_ne_empty (number : Int64) : (write number).isEmpty = false := by
  simpa [write] using DecimalText.integer_ne_nil number.toInt

/-- A written integer reads back. -/
theorem read_write (number : Int64) : read (write number) = .ok number := by
  rw [read, write_ne_empty]
  simp only [write, String.toList_ofList, splitSign_integer]
  rw [if_neg (by simp), readUnsigned_natural, signed_natAbs,
    Int64.ofInt_toInt]
  · rw [signed_natAbs]
    exact number.minValue_le_toInt
  · rw [signed_natAbs]
    exact number.toInt_le

end IntegerText

end FilterSql
