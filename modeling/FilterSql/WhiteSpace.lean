/-!
# White space

The characters with the Unicode property `White_Space`, and skipping a run of
them.
-/

namespace FilterSql

namespace WhiteSpace

/-- The code points with the property `White_Space`, as inclusive ranges. -/
def ranges : List (Nat × Nat) :=
  [(0x09, 0x0D), (0x20, 0x20), (0x85, 0x85), (0xA0, 0xA0), (0x1680, 0x1680),
    (0x2000, 0x200A), (0x2028, 0x2029), (0x202F, 0x202F), (0x205F, 0x205F),
    (0x3000, 0x3000)]

def isBlank (character : Char) : Bool :=
  ranges.any fun range =>
    range.1 ≤ character.toNat && character.toNat ≤ range.2

/-- A text without the white space at its front. -/
def skip (text : List Char) : List Char :=
  text.dropWhile isBlank

end WhiteSpace

end FilterSql
