/-!
# Reading bytes as UTF-8

Bytes are read as UTF-8 one at a time.  Each longest run of bytes that begins a
character without completing it, and each byte that can begin none, is replaced
by one replacement character, so reading never fails.

The main statement says that the encoding of a character reads back as that
character, whatever follows it.
-/

namespace FilterSql

namespace LossyUtf8

/-- The character that stands for bytes that are no UTF-8. -/
def replacement : Char := '\uFFFD'

/-- A character of which some bytes are still owed: the bits read so far, how
many bytes are owed, and the bounds of the next one. -/
structure Partial where
  bits : Nat
  owed : Nat
  least : Nat
  most : Nat

/-- What a byte does between characters: it completes a character by itself,
begins a longer one, or can begin none. -/
inductive Lead where
  | complete (character : Char)
  | begins (start : Partial)
  | invalid

/-- Classifies the first byte of a character.  The bounds on the second byte
exclude overlong forms, surrogates and code points above U+10FFFF. -/
def lead (byte : Nat) : Lead :=
  if byte < 0x80 then .complete (Char.ofNat byte)
  else if byte < 0xC2 then .invalid
  else if byte < 0xE0 then .begins ⟨byte - 0xC0, 1, 0x80, 0xBF⟩
  else if byte = 0xE0 then .begins ⟨0, 2, 0xA0, 0xBF⟩
  else if byte = 0xED then .begins ⟨0xD, 2, 0x80, 0x9F⟩
  else if byte < 0xF0 then .begins ⟨byte - 0xE0, 2, 0x80, 0xBF⟩
  else if byte = 0xF0 then .begins ⟨0, 3, 0x90, 0xBF⟩
  else if byte < 0xF4 then .begins ⟨byte - 0xF0, 3, 0x80, 0xBF⟩
  else if byte = 0xF4 then .begins ⟨4, 3, 0x80, 0x8F⟩
  else .invalid

/-- Reads bytes after a character that is still incomplete, or between
characters. -/
def decodeFrom : Option Partial → List UInt8 → List Char
  | none, [] => []
  | some _, [] => [replacement]
  | none, byte :: rest =>
      match lead byte.toNat with
      | .complete character => character :: decodeFrom none rest
      | .begins start => decodeFrom (some start) rest
      | .invalid => replacement :: decodeFrom none rest
  | some pending, byte :: rest =>
      if pending.least ≤ byte.toNat && byte.toNat ≤ pending.most then
        let bits := pending.bits * 64 + (byte.toNat - 0x80)
        if pending.owed ≤ 1 then Char.ofNat bits :: decodeFrom none rest
        else decodeFrom (some ⟨bits, pending.owed - 1, 0x80, 0xBF⟩) rest
      else
        match lead byte.toNat with
        | .complete character =>
            replacement :: character :: decodeFrom none rest
        | .begins start => replacement :: decodeFrom (some start) rest
        | .invalid => replacement :: replacement :: decodeFrom none rest

def decode (bytes : List UInt8) : List Char :=
  decodeFrom none bytes

def encode (text : List Char) : List UInt8 :=
  text.flatMap String.utf8EncodeChar

theorem lead_two {byte : Nat} (least : 0xC2 ≤ byte) (most : byte < 0xE0) :
    lead byte = .begins ⟨byte - 0xC0, 1, 0x80, 0xBF⟩ := by
  rw [lead, if_neg (by omega), if_neg (by omega), if_pos most]

/-- A first byte of three bytes, with the bounds that its second byte needs. -/
theorem lead_three {byte : Nat} (least : 0xE0 ≤ byte) (most : byte < 0xF0) :
    lead byte = .begins ⟨byte - 0xE0, 2, if byte = 0xE0 then 0xA0 else 0x80,
      if byte = 0xED then 0x9F else 0xBF⟩ := by
  rw [lead, if_neg (by omega), if_neg (by omega), if_neg (by omega)]
  by_cases first : byte = 0xE0
  · simp [first]
  by_cases surrogate : byte = 0xED
  · simp [surrogate]
  · simp [first, surrogate, most]

/-- A first byte of four bytes, with the bounds that its second byte needs. -/
theorem lead_four {byte : Nat} (least : 0xF0 ≤ byte) (most : byte ≤ 0xF4) :
    lead byte = .begins ⟨byte - 0xF0, 3, if byte = 0xF0 then 0x90 else 0x80,
      if byte = 0xF4 then 0x8F else 0xBF⟩ := by
  rw [lead, if_neg (by omega), if_neg (by omega), if_neg (by omega),
    if_neg (by omega), if_neg (by omega), if_neg (by omega)]
  by_cases first : byte = 0xF0
  · simp [first]
  by_cases last : byte = 0xF4
  · simp [last]
  · simp [first, last, show byte < 0xF4 by omega]

/-- The last byte owed completes the character. -/
theorem decodeFrom_last {pending : Partial} {byte : UInt8}
    (rest : List UInt8) (owed : pending.owed = 1)
    (least : pending.least ≤ byte.toNat) (most : byte.toNat ≤ pending.most) :
    decodeFrom (some pending) (byte :: rest) =
      Char.ofNat (pending.bits * 64 + (byte.toNat - 0x80)) ::
        decodeFrom none rest := by
  simp [decodeFrom, owed, least, most]

/-- A byte in bounds is added to the bits of the character. -/
theorem decodeFrom_next {pending : Partial} {byte : UInt8}
    (rest : List UInt8) (owed : 1 < pending.owed)
    (least : pending.least ≤ byte.toNat) (most : byte.toNat ≤ pending.most) :
    decodeFrom (some pending) (byte :: rest) =
      decodeFrom (some ⟨pending.bits * 64 + (byte.toNat - 0x80),
        pending.owed - 1, 0x80, 0xBF⟩) rest := by
  simp [decodeFrom, least, most, show ¬ pending.owed ≤ 1 by omega]

/-- The bytes of a character read back as that character, whatever follows. -/
theorem decodeFrom_encodeChar (character : Char) (rest : List UInt8) :
    decodeFrom none (String.utf8EncodeChar character ++ rest) =
      character :: decodeFrom none rest := by
  have valid : character.toNat < 0xD800 ∨
      0xDFFF < character.toNat ∧ character.toNat < 0x110000 := character.valid
  have charEq : Char.ofNat character.toNat = character := Char.ofNat_toNat character
  have tailNat (bits : Nat) :
      (UInt8.ofNat (bits % 64 + 128)).toNat = bits % 64 + 128 := by
    simp; omega
  unfold String.utf8EncodeChar
  simp only [show character.val.toNat = character.toNat from rfl]
  generalize character.toNat = code at valid charEq
  split
  · have byteNat : (UInt8.ofNat code).toNat = code := by simp; omega
    simp only [List.cons_append, List.nil_append, decodeFrom, lead, byteNat]
    rw [if_pos (by omega)]
    simp only [charEq]
  split
  · have leadNat : (UInt8.ofNat (code / 64 % 32 + 192)).toNat =
        code / 64 + 192 := by simp; omega
    simp only [List.cons_append, List.nil_append]
    rw [decodeFrom, leadNat, lead_two (by omega) (by omega)]
    simp only
    rw [decodeFrom_last rest rfl (by simp only [tailNat]; omega)
      (by simp only [tailNat]; omega)]
    simp only [tailNat]
    rw [show (code / 64 + 192 - 192) * 64 + (code % 64 + 128 - 128) = code by
      omega, charEq]
  split
  · have leadNat : (UInt8.ofNat (code / 4096 % 16 + 224)).toNat =
        code / 4096 + 224 := by simp; omega
    simp only [List.cons_append, List.nil_append]
    rw [decodeFrom, leadNat, lead_three (by omega) (by omega)]
    simp only
    rw [decodeFrom_next _ (by simp)
      (by simp only [tailNat]; split <;> omega)
      (by simp only [tailNat]; split <;> omega)]
    simp only
    rw [decodeFrom_last rest rfl (by simp only [tailNat]; omega)
      (by simp only [tailNat]; omega)]
    simp only [tailNat]
    rw [show ((code / 4096 + 224 - 224) * 64 + (code / 64 % 64 + 128 - 128)) * 64
      + (code % 64 + 128 - 128) = code by omega, charEq]
  · have leadNat : (UInt8.ofNat (code / 262144 % 8 + 240)).toNat =
        code / 262144 + 240 := by simp; omega
    simp only [List.cons_append, List.nil_append]
    rw [decodeFrom, leadNat, lead_four (by omega) (by omega)]
    simp only
    rw [decodeFrom_next _ (by simp)
      (by simp only [tailNat]; split <;> omega)
      (by simp only [tailNat]; split <;> omega)]
    simp only
    rw [decodeFrom_next _ (by simp) (by simp only [tailNat]; omega)
      (by simp only [tailNat]; omega)]
    simp only
    rw [decodeFrom_last rest rfl (by simp only [tailNat]; omega)
      (by simp only [tailNat]; omega)]
    simp only [tailNat]
    rw [show (((code / 262144 + 240 - 240) * 64
      + (code / 4096 % 64 + 128 - 128)) * 64
      + (code / 64 % 64 + 128 - 128)) * 64
      + (code % 64 + 128 - 128) = code by omega, charEq]

/-- What is encoded reads back. -/
theorem decode_encode (text : List Char) : decode (encode text) = text := by
  induction text with
  | nil => rfl
  | cons first rest ih =>
      simpa [decode, encode, decodeFrom_encodeChar] using ih

end LossyUtf8

end FilterSql
