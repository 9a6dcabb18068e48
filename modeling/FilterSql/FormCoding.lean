import FilterSql.LossyUtf8

/-!
# Form-encoded pairs

A form-encoded text is a list of pairs, joined by `&`, each a name and a value
joined by `=`.  Inside a name or value a space is written `+`, letters, digits
and the four marks `*`, `-`, `.` and `_` stand for themselves, and every other
byte of the UTF-8 encoding is written `%` with two hexadecimal digits.

Reading accepts every text: an empty piece is skipped, a piece without `=` has
an empty value, and a `%` without two hexadecimal digits stands for itself.

The main statement says that written pairs read back.  It rests on three facts:
a written component reads back, holds no separator, and splitting at a separator
splits what stands on either side of it.
-/

namespace FilterSql

namespace FormCoding

/-- The value of a hexadecimal digit of either case. -/
def hexValue? (digit : Char) : Option Nat :=
  if '0' ≤ digit ∧ digit ≤ '9' then some (digit.toNat - 48)
  else if 'A' ≤ digit ∧ digit ≤ 'F' then some (digit.toNat - 55)
  else if 'a' ≤ digit ∧ digit ≤ 'f' then some (digit.toNat - 87)
  else none

/-- The hexadecimal digit of a value below sixteen, in upper case. -/
def hexDigit (value : Nat) : Char :=
  if value < 10 then Char.ofNat (value + 48) else Char.ofNat (value + 55)

def isPlain (byte : UInt8) : Bool :=
  let character := Char.ofNat byte.toNat
  character.isAlphanum || character ∈ ['*', '-', '.', '_']

def encodeByte (byte : UInt8) : List Char :=
  if isPlain byte then [Char.ofNat byte.toNat]
  else if byte = 0x20 then ['+']
  else ['%', hexDigit (byte.toNat / 16), hexDigit (byte.toNat % 16)]

def encodeComponent (text : List Char) : List Char :=
  (LossyUtf8.encode text).flatMap encodeByte

/-- The byte that two hexadecimal digits stand for. -/
def hexByte? (high low : Char) : Option UInt8 :=
  match hexValue? high, hexValue? low with
  | some highValue, some lowValue => some (UInt8.ofNat (16 * highValue + lowValue))
  | _, _ => none

/-- The bytes that a written name or value stands for. -/
def componentBytes : List Char → List UInt8
  | [] => []
  | '%' :: high :: low :: rest =>
      match hexByte? high low with
      | some byte => byte :: componentBytes rest
      | none => 0x25 :: componentBytes (high :: low :: rest)
  | first :: rest =>
      (if first = '+' then [0x20] else String.utf8EncodeChar first) ++
        componentBytes rest

def decodeComponent (text : List Char) : List Char :=
  LossyUtf8.decode (componentBytes text)

/-- The pieces of a text between the separators; there is one more piece than
there are separators. -/
def splitPieces (separator : Char) : List Char → List (List Char)
  | [] => [[]]
  | first :: rest =>
      if first = separator then [] :: splitPieces separator rest
      else
        match splitPieces separator rest with
        | [] => [[first]]
        | piece :: pieces => (first :: piece) :: pieces

/-- The text before the first separator and the text after it, which is empty
when there is no separator. -/
def splitFirst (separator : Char) : List Char → List Char × List Char
  | [] => ([], [])
  | first :: rest =>
      if first = separator then ([], rest)
      else
        let (before, after) := splitFirst separator rest
        (first :: before, after)

def decodePair (piece : List Char) : String × String :=
  let (name, value) := splitFirst '=' piece
  (String.ofList (decodeComponent name), String.ofList (decodeComponent value))

def decodePairs (text : List Char) : List (String × String) :=
  ((splitPieces '&' text).filter fun piece => !piece.isEmpty).map decodePair

def encodePair (pair : String × String) : List Char :=
  encodeComponent pair.1.toList ++ '=' :: encodeComponent pair.2.toList

def encodePairs (pairs : List (String × String)) : List Char :=
  List.intercalate ['&'] (pairs.map encodePair)

theorem hexValue?_hexDigit {value : Nat} (small : value < 16) :
    hexValue? (hexDigit value) = some value := by
  have every : ∀ digit : Fin 16, hexValue? (hexDigit digit) = some digit.val := by
    decide
  exact every ⟨value, small⟩

theorem hexByte?_hexDigits (byte : UInt8) :
    hexByte? (hexDigit (byte.toNat / 16)) (hexDigit (byte.toNat % 16)) =
      some byte := by
  have bound := byte.toNat_lt
  rw [hexByte?, hexValue?_hexDigit (by omega), hexValue?_hexDigit (by omega)]
  simp only [Option.some.injEq]
  rw [Nat.div_add_mod, UInt8.ofNat_toNat]

/-- A byte that is written as itself is the encoding of its character, which has
no meaning of its own in a form-encoded text. -/
theorem utf8EncodeChar_of_isPlain {byte : UInt8} (plain : isPlain byte = true) :
    String.utf8EncodeChar (Char.ofNat byte.toNat) = [byte] ∧
      Char.ofNat byte.toNat ∉ ['%', '+', '&', '='] := by
  have every : ∀ code : Fin 256, isPlain (UInt8.ofNat code) = true →
      String.utf8EncodeChar (Char.ofNat code) = [UInt8.ofNat code] ∧
        Char.ofNat code ∉ ['%', '+', '&', '='] := by
    decide +kernel
  simpa using every ⟨byte.toNat, byte.toNat_lt⟩ (by simpa using plain)

theorem componentBytes_cons {first : Char} (notPercent : first ≠ '%')
    (rest : List Char) :
    componentBytes (first :: rest) =
      (if first = '+' then [0x20] else String.utf8EncodeChar first) ++
        componentBytes rest := by
  rw [componentBytes.eq_def]
  split
  · simp_all
  · simp_all
  · simp_all

theorem componentBytes_encodeByte (byte : UInt8) (rest : List Char) :
    componentBytes (encodeByte byte ++ rest) = byte :: componentBytes rest := by
  rw [encodeByte]
  split
  case isTrue plain =>
    obtain ⟨encodes, noMeaning⟩ := utf8EncodeChar_of_isPlain plain
    simp only [List.mem_cons, not_or] at noMeaning
    simp [componentBytes_cons noMeaning.1, noMeaning.2.1, encodes]
  case isFalse notPlain =>
    split
    case isTrue isSpace =>
      simp [componentBytes_cons, isSpace]
    case isFalse notSpace =>
      simp [componentBytes, hexByte?_hexDigits]

theorem componentBytes_encodeBytes (bytes : List UInt8) :
    componentBytes (bytes.flatMap encodeByte) = bytes := by
  induction bytes with
  | nil => rfl
  | cons byte bytes ih =>
      rw [List.flatMap_cons, componentBytes_encodeByte, ih]

/-- A written name or value reads back. -/
theorem decodeComponent_encodeComponent (text : List Char) :
    decodeComponent (encodeComponent text) = text := by
  rw [decodeComponent, encodeComponent, componentBytes_encodeBytes,
    LossyUtf8.decode_encode]

theorem splitPieces_ne_nil (separator : Char) (text : List Char) :
    splitPieces separator text ≠ [] := by
  cases text with
  | nil => simp [splitPieces]
  | cons first rest =>
      rw [splitPieces]
      split
      · simp
      · split <;> simp

theorem splitPieces_of_notMem {separator : Char} {text : List Char}
    (notMem : separator ∉ text) : splitPieces separator text = [text] := by
  induction text with
  | nil => rfl
  | cons first rest ih =>
      simp only [List.mem_cons, not_or] at notMem
      simp [splitPieces, ih notMem.2, Ne.symm notMem.1]

/-- Splitting at a separator splits what stands on either side of it. -/
theorem splitPieces_append (separator : Char) (first second : List Char) :
    splitPieces separator (first ++ separator :: second) =
      splitPieces separator first ++ splitPieces separator second := by
  induction first with
  | nil => simp [splitPieces]
  | cons character rest ih =>
      by_cases isSeparator : character = separator
      · simp [splitPieces, isSeparator, ih]
      · obtain ⟨piece, pieces, split⟩ :
            ∃ piece pieces, splitPieces separator rest = piece :: pieces :=
          List.exists_cons_of_ne_nil (splitPieces_ne_nil separator rest)
        simp [splitPieces, isSeparator, ih, split]

theorem splitFirst_append {separator : Char} {before : List Char}
    (notMem : separator ∉ before) (after : List Char) :
    splitFirst separator (before ++ separator :: after) = (before, after) := by
  induction before with
  | nil => simp [splitFirst]
  | cons first rest ih =>
      simp only [List.mem_cons, not_or] at notMem
      simp [splitFirst, ih notMem.2, Ne.symm notMem.1]

theorem notMem_encodeByte (byte : UInt8) :
    '&' ∉ encodeByte byte ∧ '=' ∉ encodeByte byte := by
  have every : ∀ code : Fin 256, '&' ∉ encodeByte (UInt8.ofNat code) ∧
      '=' ∉ encodeByte (UInt8.ofNat code) := by
    decide +kernel
  simpa using every ⟨byte.toNat, byte.toNat_lt⟩

/-- The separators do not occur in a written name or value. -/
theorem notMem_encodeComponent (text : List Char) :
    '&' ∉ encodeComponent text ∧ '=' ∉ encodeComponent text := by
  simp only [encodeComponent, List.mem_flatMap, not_exists, not_and]
  exact ⟨fun byte _ => (notMem_encodeByte byte).1,
    fun byte _ => (notMem_encodeByte byte).2⟩

theorem decodePair_encodePair (pair : String × String) :
    decodePair (encodePair pair) = pair := by
  simp [decodePair, encodePair,
    splitFirst_append (notMem_encodeComponent pair.1.toList).2,
    decodeComponent_encodeComponent]

theorem notMem_encodePair (pair : String × String) : '&' ∉ encodePair pair := by
  simp [encodePair, (notMem_encodeComponent _).1]

theorem encodePairs_cons_cons (first second : String × String)
    (rest : List (String × String)) :
    encodePairs (first :: second :: rest) =
      encodePair first ++ '&' :: encodePairs (second :: rest) := by
  simp [encodePairs, List.intercalate_cons_cons]

theorem splitPieces_encodePairs {pairs : List (String × String)}
    (nonempty : pairs ≠ []) :
    splitPieces '&' (encodePairs pairs) = pairs.map encodePair := by
  induction pairs with
  | nil => exact absurd rfl nonempty
  | cons first rest ih =>
      cases rest with
      | nil =>
          simp [encodePairs, List.intercalate,
            splitPieces_of_notMem (notMem_encodePair first)]
      | cons second rest =>
          rw [encodePairs_cons_cons, splitPieces_append,
            splitPieces_of_notMem (notMem_encodePair first), ih (by simp)]
          rfl

/-- Written pairs read back. -/
theorem decodePairs_encodePairs (pairs : List (String × String)) :
    decodePairs (encodePairs pairs) = pairs := by
  cases pairs with
  | nil => rfl
  | cons first rest =>
      have noneEmpty : ((first :: rest).map encodePair).filter
          (fun piece => !piece.isEmpty) = (first :: rest).map encodePair := by
        rw [List.filter_eq_self]
        intro piece pieceMem
        obtain ⟨pair, _, rfl⟩ := List.mem_map.mp pieceMem
        simp [encodePair]
      rw [decodePairs, splitPieces_encodePairs (by simp), noneEmpty, List.map_map]
      simp [Function.comp_def, decodePair_encodePair]

end FormCoding

end FilterSql
