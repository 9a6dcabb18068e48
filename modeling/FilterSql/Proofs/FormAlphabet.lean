import FilterSql.FormCoding

/-!
# The alphabet of form-encoded text

A form-encoded text holds letters, digits, the four marks that stand for
themselves, and the four characters with a meaning of their own.  In particular
it holds no question mark.
-/

namespace FilterSql

namespace FormCoding

/-- Whether a character occurs in written text: a letter, a digit, a mark that
stands for itself, or one of the characters with a meaning of their own. -/
def isWritten (character : Char) : Bool :=
  character.isAlphanum ||
    character ∈ ['*', '-', '.', '_', '+', '%', '=', '&']

theorem isWritten_of_mem_encodeByte {byte : UInt8} {character : Char}
    (characterMem : character ∈ encodeByte byte) :
    isWritten character = true := by
  have every : ∀ code : Fin 256,
      (encodeByte (UInt8.ofNat code)).all isWritten = true := by
    decide +kernel
  have written := every ⟨byte.toNat, byte.toNat_lt⟩
  rw [UInt8.ofNat_toNat] at written
  exact List.all_eq_true.mp written character characterMem

theorem isWritten_of_mem_encodeComponent {text : List Char} {character : Char}
    (characterMem : character ∈ encodeComponent text) :
    isWritten character = true := by
  obtain ⟨byte, _, writtenMem⟩ := List.mem_flatMap.mp characterMem
  exact isWritten_of_mem_encodeByte writtenMem

theorem isWritten_of_mem_encodePair {pair : String × String} {character : Char}
    (characterMem : character ∈ encodePair pair) :
    isWritten character = true := by
  rcases List.mem_append.mp characterMem with nameMem | valueMem
  · exact isWritten_of_mem_encodeComponent nameMem
  · rcases List.mem_cons.mp valueMem with rfl | valueMem
    · rfl
    · exact isWritten_of_mem_encodeComponent valueMem

/-- Pairs are written in the alphabet. -/
theorem isWritten_of_mem_encodePairs {pairs : List (String × String)}
    {character : Char} (characterMem : character ∈ encodePairs pairs) :
    isWritten character = true := by
  induction pairs with
  | nil => simp [encodePairs] at characterMem
  | cons first rest ih =>
      cases rest with
      | nil =>
          have firstMem : character ∈ encodePair first := by
            simpa [encodePairs] using characterMem
          exact isWritten_of_mem_encodePair firstMem
      | cons second rest =>
          rw [encodePairs_cons_cons] at characterMem
          rcases List.mem_append.mp characterMem with firstMem | restMem
          · exact isWritten_of_mem_encodePair firstMem
          · rcases List.mem_cons.mp restMem with rfl | restMem
            · rfl
            · exact ih restMem

theorem questionMark_notMem_encodePairs (pairs : List (String × String)) :
    '?' ∉ encodePairs pairs := by
  intro mem
  have written := isWritten_of_mem_encodePairs mem
  exact absurd written (by decide)

end FormCoding

end FilterSql
