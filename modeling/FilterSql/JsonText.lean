import FilterSql.Json

/-!
# Reading JSON text

A reader for JSON text.  Every step returns the value it read and the text that
follows; the depth of the recursion is bounded by a measure of the text.
-/

namespace FilterSql

namespace Json

def skipSpace (text : List Char) : List Char :=
  text.dropWhile fun character =>
    character ∈ [' ', '\t', '\n', '\r']

/-- The rest of a text after `word`, when the text starts with it. -/
def afterWord? : List Char → List Char → Option (List Char)
  | [], text => some text
  | _ :: _, [] => none
  | letter :: word, first :: rest =>
      if letter = first then afterWord? word rest else none

/-- The number that four hexadecimal digits stand for. -/
def codeUnit? (first second third fourth : Char) : Option Nat := do
  let firstValue ← FormCoding.hexValue? first
  let secondValue ← FormCoding.hexValue? second
  let thirdValue ← FormCoding.hexValue? third
  let fourthValue ← FormCoding.hexValue? fourth
  return ((firstValue * 16 + secondValue) * 16 + thirdValue) * 16 + fourthValue

/-- The character that a letter after a backslash stands for. -/
def shortEscape? (letter : Char) : Option Char :=
  [('"', '"'), ('\\', '\\'), ('/', '/'), ('b', '\x08'), ('t', '\t'),
    ('n', '\n'), ('f', '\x0C'), ('r', '\r')].lookup letter

/-- Reads the contents of a string up to the closing quote.  `pending` is the
first half of a surrogate pair whose second half has to follow. -/
def readCharacters (pending : Option Nat) :
    List Char → Option (List Char × List Char)
  | '\\' :: 'u' :: first :: second :: third :: fourth :: rest =>
      match codeUnit? first second third fourth, pending with
      | none, _ => none
      | some unit, some high =>
          if 0xDC00 ≤ unit ∧ unit ≤ 0xDFFF then
            let code := 0x10000 + (high - 0xD800) * 0x400 + (unit - 0xDC00)
            (readCharacters none rest).map fun (characters, after) =>
              (Char.ofNat code :: characters, after)
          else none
      | some unit, none =>
          if 0xD800 ≤ unit ∧ unit ≤ 0xDBFF then readCharacters (some unit) rest
          else if 0xDC00 ≤ unit ∧ unit ≤ 0xDFFF then none
          else
            (readCharacters none rest).map fun (characters, after) =>
              (Char.ofNat unit :: characters, after)
  | first :: rest =>
      if pending.isSome then none
      else if first = '"' then some ([], rest)
      else if first = '\\' then
        match rest with
        | [] => none
        | letter :: after =>
            match shortEscape? letter with
            | none => none
            | some character =>
                (readCharacters none after).map fun (characters, after) =>
                  (character :: characters, after)
      else if first.toNat < 0x20 then none
      else
        (readCharacters none rest).map fun (characters, after) =>
          (first :: characters, after)
  | [] => none

/-- Reads a string whose opening quote has been taken. -/
def readString (text : List Char) : Option (String × List Char) :=
  (readCharacters none text).map fun (characters, rest) =>
    (String.ofList characters, rest)

def isNumeric (character : Char) : Bool :=
  character.isDigit || character ∈ ['-', '+', '.', 'e', 'E']

/-- The number that a numeral without its sign stands for.  It starts with a digit,
has no needless leading zero, and has a digit on either side of a decimal point;
minus zero is a double-precision number. -/
def ofUnsigned? (negative : Bool) (unsigned : List Char) : Option Json :=
  match DecimalText.takeAllDigits unsigned with
  | ([], _) => none
  | ('0' :: _ :: _, _) => none
  | (digits, []) =>
      let magnitude := DecimalText.valueOf digits
      if negative && magnitude == 0 then
        some (decimal (Binary64.zero true))
      else some (integer (IntegerText.signed negative magnitude))
  | (_, '.' :: rest) =>
      if (DecimalText.takeAllDigits rest).1.isEmpty then none
      else (Binary64.readDecimal? negative unsigned).map decimal
  | _ => (Binary64.readDecimal? negative unsigned).map decimal

/-- The number that a numeral stands for; the only sign is a minus. -/
def ofNumeral? : List Char → Option Json
  | '-' :: unsigned => ofUnsigned? true unsigned
  | unsigned => ofUnsigned? false unsigned

mutual

/-- Reads a value; `depth` bounds the recursion. -/
def readValue : Nat → List Char → Option (Json × List Char)
  | 0, _ => none
  | depth + 1, text =>
      match skipSpace text with
      | [] => none
      | first :: rest =>
          if first = '"' then
            (readString rest).map fun (content, after) => (string content, after)
          else if first = '[' then
            match skipSpace rest with
            | ']' :: after => some (array [], after)
            | _ =>
                (readItems depth rest).map fun (items, after) =>
                  (array items, after)
          else if first = '{' then
            match skipSpace rest with
            | '}' :: after => some (object [], after)
            | _ =>
                (readMembers depth rest).map fun (members, after) =>
                  (object members, after)
          else if first = 'n' then
            (afterWord? "ull".toList rest).map fun after => (null, after)
          else if first = 't' then
            (afterWord? "rue".toList rest).map fun after => (boolean true, after)
          else if first = 'f' then
            (afterWord? "alse".toList rest).map fun after => (boolean false, after)
          else
            let numeral := (first :: rest).takeWhile isNumeric
            (ofNumeral? numeral).map fun value =>
              (value, (first :: rest).dropWhile isNumeric)

/-- Reads the items of an array, of which there is at least one, and the closing
bracket. -/
def readItems : Nat → List Char → Option (List Json × List Char)
  | 0, _ => none
  | depth + 1, text =>
      match readValue depth text with
      | none => none
      | some (first, after) =>
          match skipSpace after with
          | ',' :: rest =>
              (readItems depth rest).map fun (items, after) =>
                (first :: items, after)
          | ']' :: rest => some ([first], rest)
          | _ => none

/-- Reads the members of an object, of which there is at least one, and the
closing brace. -/
def readMembers : Nat → List Char → Option (List (String × Json) × List Char)
  | 0, _ => none
  | depth + 1, text =>
      match skipSpace text with
      | '"' :: opened =>
          match readString opened with
          | none => none
          | some (name, afterName) =>
              match skipSpace afterName with
              | ':' :: afterColon =>
                  match readValue depth afterColon with
                  | none => none
                  | some (first, after) =>
                      match skipSpace after with
                      | ',' :: rest =>
                          (readMembers depth rest).map fun (members, after) =>
                            ((name, first) :: members, after)
                      | '}' :: rest => some ([(name, first)], rest)
                      | _ => none
              | _ => none
      | _ => none

end

/-- Reads a text that holds one value and nothing else. -/
def ofText? (text : String) : Option Json :=
  let characters := text.toList
  match readValue (2 * characters.length + 1) characters with
  | some (value, rest) => if (skipSpace rest).isEmpty then some value else none
  | none => none

end Json

end FilterSql
