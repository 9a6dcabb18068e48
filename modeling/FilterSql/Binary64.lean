/-!
# Double-precision numbers

The numbers of the 64-bit binary format, without NaN.  A number is a sign and a
rank: its place in the increasing list of the nonnegative numbers of the format,
where zero has rank zero and infinity comes last.  Neighbouring ranks are
neighbouring numbers, so rounding and the interval of reals that round to a
number need no case for carries or for the subnormal numbers.
-/

namespace FilterSql

/-- The rank of infinity: one past the greatest finite number. -/
def Binary64.infinityRank : Nat :=
  2047 * Nat.pow 2 52

/-- A double-precision number other than NaN. -/
structure Binary64 where
  negative : Bool
  rank : Nat
  rankLe : rank ≤ Binary64.infinityRank
  deriving DecidableEq

namespace Binary64

/-- The power of two by which the significand of a rank is scaled. -/
def scale (rank : Nat) : Nat :=
  rank / Nat.pow 2 52 - 1

/-- The number of a rank, as a multiple of `2 ^ -1074`. -/
def magnitude (rank : Nat) : Nat :=
  (rank - scale rank * Nat.pow 2 52) * Nat.pow 2 (scale rank)

/-- Divides and rounds to the nearest natural number; a half goes to the even
neighbour. -/
def divideToNearest (numerator denominator : Nat) : Nat :=
  let quotient := numerator / denominator
  let twice := 2 * (numerator % denominator)
  if twice < denominator then quotient
  else if denominator < twice then quotient + 1
  else quotient + quotient % 2

/-- The rank of the number nearest to a fraction; a half goes to the number with
an even significand, and what exceeds every finite number goes to infinity. -/
def nearestRank (numerator denominator : Nat) : Nat :=
  let scaled := numerator * Nat.pow 2 1074
  let shift := (scaled / denominator).log2 - 52
  let rank := shift * Nat.pow 2 52 +
    divideToNearest scaled (denominator * Nat.pow 2 shift)
  min rank infinityRank

/-- The number with a sign that is nearest to a fraction. -/
def ofFraction (negative : Bool) (numerator denominator : Nat) : Binary64 :=
  ⟨negative, nearestRank numerator denominator, Nat.min_le_right _ _⟩

def zero (negative : Bool) : Binary64 :=
  ⟨negative, 0, Nat.zero_le _⟩

def infinity (negative : Bool) : Binary64 :=
  ⟨negative, infinityRank, Nat.le_refl _⟩

def isZero (number : Binary64) : Bool :=
  number.rank == 0

def isInfinite (number : Binary64) : Bool :=
  number.rank == infinityRank

/-- Numbers are compared by value, so the two zeros are equal. -/
instance : BEq Binary64 :=
  ⟨fun first second =>
    first.rank == second.rank &&
      (first.negative == second.negative || first.isZero)⟩

end Binary64

end FilterSql
