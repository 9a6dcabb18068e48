/-!
# Decimal numerals

Writing natural numbers and integers in base ten, and taking a bounded run of
digits from the front of a text.  Digits are the ten ASCII digits; every reader
of numbers in this library goes through `takeDigits`.
-/

namespace FilterSql

namespace DecimalText

/-- The base-ten digits of a natural number, without leading zeros. -/
def natural (number : Nat) : List Char :=
  Nat.toDigits 10 number

/-- The digits of a natural number with zeros in front, to at least `width`. -/
def padded (width number : Nat) : List Char :=
  List.replicate (width - (natural number).length) '0' ++ natural number

/-- An integer in base ten; only a negative one carries a sign. -/
def integer : Int → List Char
  | .ofNat number => natural number
  | .negSucc number => '-' :: natural (number + 1)

/-- The number that a run of digits stands for. -/
def valueOf (digits : List Char) : Nat :=
  Nat.ofDigitChars 10 digits 0

/-- The run of digits at the front of a text, at most `most` of them, and what
follows the run. -/
def takeDigits : Nat → List Char → List Char × List Char
  | most + 1, first :: rest =>
      if first.isDigit then
        let (digits, after) := takeDigits most rest
        (first :: digits, after)
      else ([], first :: rest)
  | _, text => ([], text)

/-- The whole run of digits at the front of a text, and what follows it. -/
def takeAllDigits (text : List Char) : List Char × List Char :=
  takeDigits text.length text

/-- The digits of a number stand for the number. -/
theorem valueOf_natural (number : Nat) : valueOf (natural number) = number :=
  Nat.ofDigitChars_toDigits (by decide) (by decide)

theorem isDigit_of_mem_natural {number : Nat} {digit : Char}
    (digitMem : digit ∈ natural number) : digit.isDigit = true :=
  Nat.isDigit_of_mem_toDigits (by decide) (by decide) digitMem

theorem natural_ne_nil (number : Nat) : natural number ≠ [] :=
  Nat.toDigits_ne_nil

theorem exists_natural_eq_cons (number : Nat) :
    ∃ first rest, natural number = first :: rest ∧ first.isDigit = true := by
  obtain ⟨first, rest, digitsEq⟩ :=
    List.exists_cons_of_ne_nil (natural_ne_nil number)
  have firstMem : first ∈ natural number := by
    rw [digitsEq]
    exact List.mem_cons_self
  exact ⟨first, rest, digitsEq, isDigit_of_mem_natural firstMem⟩

theorem integer_ne_nil (number : Int) : integer number ≠ [] := by
  cases number with
  | ofNat magnitude => exact natural_ne_nil magnitude
  | negSucc magnitude => exact List.cons_ne_nil _ _

theorem eq_minus_or_isDigit_of_mem_integer {number : Int} {character : Char}
    (characterMem : character ∈ integer number) :
    character = '-' ∨ character.isDigit = true := by
  cases number with
  | ofNat magnitude => exact .inr (isDigit_of_mem_natural characterMem)
  | negSucc magnitude =>
      rcases List.mem_cons.mp characterMem with isMinus | digitMem
      · exact .inl isMinus
      · exact .inr (isDigit_of_mem_natural digitMem)

/-- A run that is exhausted, or that something other than a digit follows, is
taken whole. -/
theorem takeDigits_run {most : Nat} {digits rest : List Char}
    (allDigits : ∀ digit ∈ digits, digit.isDigit = true)
    (fits : digits.length ≤ most)
    (ends : digits.length = most ∨
      ∀ next ∈ rest.head?, next.isDigit = false) :
    takeDigits most (digits ++ rest) = (digits, rest) := by
  induction digits generalizing most with
  | nil =>
      cases most with
      | zero => cases rest <;> rfl
      | succ most =>
          cases rest with
          | nil => rfl
          | cons next rest =>
              have nextNotDigit : next.isDigit = false := by
                rcases ends with lengthEq | notDigit
                · simp at lengthEq
                · exact notDigit next rfl
              simp [takeDigits, nextNotDigit]
  | cons digit digits ih =>
      cases most with
      | zero => simp at fits
      | succ most =>
          have recursion := @ih most
            (fun other otherMem => allDigits other (by simp [otherMem]))
            (by simpa using fits)
            (ends.imp (fun lengthEq => by simpa using lengthEq) id)
          simp [takeDigits, allDigits digit (by simp), recursion]

end DecimalText

end FilterSql
