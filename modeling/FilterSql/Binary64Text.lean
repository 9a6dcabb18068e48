import FilterSql.Binary64
import FilterSql.IntegerText

/-!
# Double-precision numbers in decimal

Reading a decimal numeral gives the nearest double-precision number.  Writing
gives the fewest digits that read back as the number, and among those the
digits nearest to it; two layouts place the decimal point.
-/

namespace FilterSql

namespace Binary64

/-- The number nearest to `coefficient * 10 ^ exponent`.  A coefficient whose
leading digit stands far outside the range of the format needs no arithmetic. -/
def ofDecimal (negative : Bool) (coefficient : Nat) (exponent : Int) :
    Binary64 :=
  let leading := exponent + (DecimalText.natural coefficient).length
  if coefficient = 0 || leading < -400 then zero negative
  else if 400 < leading then infinity negative
  else ofFraction negative (coefficient * Nat.pow 10 exponent.toNat)
    (Nat.pow 10 (-exponent).toNat)

/-- Reads an exponent part, which may be missing. -/
def readExponent? : List Char → Option Int
  | [] => some 0
  | mark :: rest =>
      if mark = 'e' || mark = 'E' then
        let (negative, unsigned) := IntegerText.splitSign rest
        let (digits, after) := DecimalText.takeAllDigits unsigned
        if digits.isEmpty || !after.isEmpty then none
        else some (IntegerText.signed negative (DecimalText.valueOf digits))
      else none

/-- Reads digits with an optional decimal point and an optional exponent; at
least one digit stands before the point or after it. -/
def readDecimal? (negative : Bool) (text : List Char) : Option Binary64 :=
  let (whole, afterWhole) := DecimalText.takeAllDigits text
  let (fraction, afterFraction) :=
    match afterWhole with
    | '.' :: rest => DecimalText.takeAllDigits rest
    | _ => ([], afterWhole)
  if whole.isEmpty && fraction.isEmpty then none
  else
    (readExponent? afterFraction).map fun exponent =>
      ofDecimal negative (DecimalText.valueOf (whole ++ fraction))
        (exponent - fraction.length)

def infinityWords : List (List Char) :=
  ["inf".toList, "infinity".toList]

/-- Reads a number: an optional sign, then a decimal numeral or, in any case, a
word for infinity. -/
def ofText? (text : List Char) : Option Binary64 :=
  let (negative, unsigned) := IntegerText.splitSign text
  if unsigned.map Char.toLower ∈ infinityWords then some (infinity negative)
  else readDecimal? negative unsigned

/-- Which way digits go that lie exactly between two shortest candidates. -/
inductive Tie where
  | up
  | toEven
  deriving DecidableEq, Repr

/-- A decimal numeral: `coefficient * 10 ^ exponent`. -/
structure Numeral where
  coefficient : Nat
  exponent : Int
  deriving DecidableEq, Repr

/-- The multiple of `10 ^ exponent` that reads back as the number of a rank, if
there is one; of two such multiples the nearer, and of two equally near ones the
one that `tie` names.  All lengths are multiples of `2 ^ -1075`. -/
def onGrid? (tie : Tie) (rank : Nat) (exponent : Int) : Option Numeral :=
  let step := Nat.pow 10 exponent.toNat * Nat.pow 2 1075
  let parts := Nat.pow 10 (-exponent).toNat
  let least := (magnitude (rank - 1) + magnitude rank) * parts
  let most := (magnitude rank + magnitude (rank + 1)) * parts
  let value := 2 * magnitude rank * parts
  let readsBack (multiple : Nat) : Bool :=
    if rank % 2 = 0 then least ≤ multiple * step && multiple * step ≤ most
    else least < multiple * step && multiple * step < most
  let below := value / step
  let upper :=
    if readsBack below && readsBack (below + 1) then
      let between := (2 * below + 1) * step
      between < 2 * value ||
        (between == 2 * value && (tie == .up || below % 2 == 1))
    else readsBack (below + 1)
  if upper then some ⟨below + 1, exponent⟩
  else if readsBack below then some ⟨below, exponent⟩
  else none

/-- Searches ever finer grids for a multiple that reads back. -/
def searchGrids (tie : Tie) (rank : Nat) : Nat → Int → Numeral
  | 0, _ => ⟨0, 0⟩
  | grids + 1, exponent =>
      match onGrid? tie rank exponent with
      | some numeral => numeral
      | none => searchGrids tie rank grids (exponent - 1)

/-- The shortest numeral that reads back as the number of a finite rank.  The
grids run from above the greatest finite number to below the least one. -/
def shortest (tie : Tie) (rank : Nat) : Numeral :=
  if rank = 0 then ⟨0, 0⟩ else searchGrids tie rank 640 309

namespace Numeral

/-- The digits before the decimal point and the digits after it. -/
def parts (numeral : Numeral) : List Char × List Char :=
  let digits := DecimalText.natural numeral.coefficient
  match numeral.exponent with
  | .ofNat zeros => (digits ++ List.replicate zeros '0', [])
  | .negSucc places =>
      let padded := DecimalText.padded (places + 2) numeral.coefficient
      padded.splitAt (padded.length - (places + 1))

/-- The power of ten of the leading digit. -/
def leadingExponent (numeral : Numeral) : Int :=
  numeral.exponent + (DecimalText.natural numeral.coefficient).length - 1

/-- Positional notation; a whole number has no decimal point. -/
def plain (numeral : Numeral) : List Char :=
  match numeral.parts with
  | (whole, []) => whole
  | (whole, fraction) => whole ++ '.' :: fraction

/-- Positional notation with at least one digit after the decimal point. -/
def pointed (numeral : Numeral) : List Char :=
  match numeral.parts with
  | (whole, []) => whole ++ ".0".toList
  | (whole, fraction) => whole ++ '.' :: fraction

/-- One digit before the decimal point and a signed power of ten. -/
def scientific (numeral : Numeral) : List Char :=
  let exponent := numeral.leadingExponent
  let mantissa :=
    match DecimalText.natural numeral.coefficient with
    | first :: second :: rest => first :: '.' :: second :: rest
    | digits => digits
  mantissa ++ 'e' :: (if exponent < 0 then '-' else '+') ::
    DecimalText.natural exponent.natAbs

end Numeral

/-- A text with a minus in front when the number is negative. -/
def withSign (number : Binary64) (unsigned : List Char) : List Char :=
  if number.negative then '-' :: unsigned else unsigned

/-- How a number is shown: positional notation, never an exponent. -/
def text (number : Binary64) : List Char :=
  number.withSign
    (if number.isInfinite then "inf".toList
    else (shortest .up number.rank).plain)

/-- How a finite number is written where numbers may carry an exponent: from
`10 ^ -5` up to but not including `10 ^ 16` positionally, else with a power of
ten. -/
def exponentText (number : Binary64) : List Char :=
  let numeral := shortest .toEven number.rank
  number.withSign
    (if number.isZero ||
        (-5 ≤ numeral.leadingExponent && numeral.leadingExponent < 16) then
      numeral.pointed
    else numeral.scientific)

end Binary64

end FilterSql
