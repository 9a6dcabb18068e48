import FilterSql.JsonText
import FilterSql.Proofs.IntegerReading
import Mathlib.Tactic.SplitIfs

/-!
# Reading written JSON

A value in which every number is an integer reads back from its text.  What is
read back is a value with any text behind it, provided that a numeral would end
there; an item or a member is always followed by a comma or a closing bracket, so
that arrays and objects read back when their parts do.

The depth of the recursion is no obstacle: the length of the text is enough for
every part of it.
-/

namespace FilterSql

namespace DecimalText

/-- Only zero is written with a zero in front. -/
theorem eq_zero_of_natural_eq_cons {number : Nat} {rest : List Char}
    (startsEq : natural number = '0' :: rest) : number = 0 := by
  induction number using Nat.strongRecOn generalizing rest with
  | ind number ih =>
      by_cases small : number < 10
      · rw [natural, Nat.toDigits_of_lt_base small] at startsEq
        have every : ∀ digit : Fin 10,
            digit.val.digitChar = '0' → digit.val = 0 := by
          decide
        exact every ⟨number, small⟩ (List.cons.inj startsEq).1
      · have lastDigit : natural number =
            natural (number / 10) ++ [Nat.digitChar (number % 10)] :=
          Nat.toDigits_of_base_le (by decide) (by omega)
        obtain ⟨first, others, frontEq⟩ :=
          List.exists_cons_of_ne_nil (natural_ne_nil (number / 10))
        rw [lastDigit, frontEq] at startsEq
        obtain rfl := (List.cons.inj startsEq).1
        have frontZero := ih (number / 10) (by omega) frontEq
        omega

end DecimalText

namespace Json

/-! ### Strings -/

theorem readCharacters_quote (rest : List Char) :
    readCharacters none ('"' :: rest) = some ([], rest) := by
  rw [readCharacters.eq_def]
  rfl

theorem readCharacters_plain {character : Char} (notQuote : character ≠ '"')
    (notBackslash : character ≠ '\\') (notControl : ¬ character.toNat < 0x20)
    (rest : List Char) :
    readCharacters none (character :: rest) =
      (readCharacters none rest).map fun read =>
        (character :: read.1, read.2) := by
  rw [readCharacters.eq_def]
  split
  case h_1 startsEq => exact absurd (List.cons.inj startsEq).1 notBackslash
  case h_2 startsEq =>
    obtain ⟨rfl, rfl⟩ := List.cons.inj startsEq
    rw [if_neg (by simp), if_neg notQuote, if_neg notBackslash,
      if_neg notControl]
  case h_3 startsEq => cases startsEq

theorem readCharacters_escape {letter character : Char}
    (escapes : shortEscape? letter = some character) (rest : List Char) :
    readCharacters none ('\\' :: letter :: rest) =
      (readCharacters none rest).map fun read =>
        (character :: read.1, read.2) := by
  have notUnicode : letter ≠ 'u' := by
    rintro rfl
    cases escapes
  rw [readCharacters.eq_def]
  split
  case h_1 startsEq =>
    exact absurd (List.cons.inj (List.cons.inj startsEq).2).1 notUnicode
  case h_2 startsEq =>
    obtain ⟨rfl, rfl⟩ := List.cons.inj startsEq
    simp [escapes]
  case h_3 startsEq => cases startsEq

theorem codeUnit?_hexDigits {code : Nat} (isControl : code < 0x20) :
    codeUnit? '0' '0' (Nat.digitChar (code / 16)) (Nat.digitChar (code % 16)) =
      some code := by
  have every : ∀ code : Fin 32,
      codeUnit? '0' '0' (Nat.digitChar (code.val / 16))
        (Nat.digitChar (code.val % 16)) = some code.val := by
    decide
  exact every ⟨code, isControl⟩

theorem readCharacters_unicode {character : Char}
    (isControl : character.toNat < 0x20) (rest : List Char) :
    readCharacters none ('\\' :: 'u' :: '0' :: '0' ::
        Nat.digitChar (character.toNat / 16) ::
        Nat.digitChar (character.toNat % 16) :: rest) =
      (readCharacters none rest).map fun read =>
        (character :: read.1, read.2) := by
  rw [readCharacters.eq_def]
  simp only [codeUnit?_hexDigits isControl]
  rw [if_neg (by omega), if_neg (by omega), Char.ofNat_toNat]

/-- A written character reads back. -/
theorem readCharacters_escapeCharacter (character : Char) (rest : List Char) :
    readCharacters none (escapeCharacter character ++ rest) =
      (readCharacters none rest).map fun read =>
        (character :: read.1, read.2) := by
  unfold escapeCharacter
  split_ifs with quote backslash backspace tab newline feed carriage control
  · rw [quote]
    exact readCharacters_escape rfl rest
  · rw [backslash]
    exact readCharacters_escape rfl rest
  · rw [backspace]
    exact readCharacters_escape rfl rest
  · rw [tab]
    exact readCharacters_escape rfl rest
  · rw [newline]
    exact readCharacters_escape rfl rest
  · rw [feed]
    exact readCharacters_escape rfl rest
  · rw [carriage]
    exact readCharacters_escape rfl rest
  · exact readCharacters_unicode control rest
  · exact readCharacters_plain quote backslash control rest

theorem readCharacters_escapeCharacters (characters rest : List Char) :
    readCharacters none (characters.flatMap escapeCharacter ++ '"' :: rest) =
      some (characters, rest) := by
  induction characters with
  | nil => exact readCharacters_quote rest
  | cons character characters ih =>
      rw [List.flatMap_cons, List.append_assoc, readCharacters_escapeCharacter,
        ih]
      rfl

theorem writeString_append (text : String) (rest : List Char) :
    writeString text ++ rest =
      '"' :: (text.toList.flatMap escapeCharacter ++ '"' :: rest) := by
  simp [writeString]

/-- A written string reads back once its opening quote is taken. -/
theorem readString_escapeCharacters (text : String) (rest : List Char) :
    readString (text.toList.flatMap escapeCharacter ++ '"' :: rest) =
      some (text, rest) := by
  simp only [readString, readCharacters_escapeCharacters, Option.map_some,
    String.ofList_toList]

/-! ### Numbers -/

theorem ofUnsigned?_natural {negative : Bool} {number : Nat}
    (notMinusZero : (negative && number == 0) = false) :
    ofUnsigned? negative (DecimalText.natural number) =
      some (integer (IntegerText.signed negative number)) := by
  unfold ofUnsigned?
  rw [DecimalText.takeAllDigits_natural]
  split
  case h_1 digitsEq =>
    exact absurd (Prod.mk.inj digitsEq).1 (DecimalText.natural_ne_nil number)
  case h_2 digitsEq =>
    obtain rfl :=
      DecimalText.eq_zero_of_natural_eq_cons (Prod.mk.inj digitsEq).1
    cases digitsEq
  case h_3 digitsEq =>
    obtain rfl := (Prod.mk.inj digitsEq).1
    rw [DecimalText.valueOf_natural]
    exact if_neg (by simp [notMinusZero])
  case h_4 digitsEq => cases (Prod.mk.inj digitsEq).2
  case h_5 notWhole _ => exact (notWhole _ rfl).elim

/-- A written integer is a numeral that stands for the integer. -/
theorem ofNumeral?_integer (number : Int) :
    ofNumeral? (DecimalText.integer number) = some (integer number) := by
  cases number with
  | ofNat magnitude =>
      obtain ⟨first, rest, digitsEq, firstDigit⟩ :=
        DecimalText.exists_natural_eq_cons magnitude
      have notMinus : first ≠ '-' := by
        rintro rfl
        simp at firstDigit
      have unsigned : ofNumeral? (DecimalText.natural magnitude) =
          ofUnsigned? false (DecimalText.natural magnitude) := by
        rw [digitsEq, ofNumeral?]
        rintro _ startsEq
        exact notMinus (List.cons.inj startsEq).1
      exact unsigned.trans (ofUnsigned?_natural rfl)
  | negSucc magnitude =>
      exact ofUnsigned?_natural (by simp)

theorem isNumeric_of_mem_integer {number : Int} {character : Char}
    (characterMem : character ∈ DecimalText.integer number) :
    isNumeric character = true := by
  rcases DecimalText.eq_minus_or_isDigit_of_mem_integer characterMem with
    rfl | digit
  · rfl
  · simp [isNumeric, digit]

/-- Whether a numeral in front of a text ends where the text begins. -/
def EndsNumeral (text : List Char) : Prop :=
  ∀ next ∈ text.head?, isNumeric next = false

theorem takeWhile_isNumeric_integer (number : Int) {rest : List Char}
    (ends : EndsNumeral rest) :
    (DecimalText.integer number ++ rest).takeWhile isNumeric =
        DecimalText.integer number ∧
      (DecimalText.integer number ++ rest).dropWhile isNumeric = rest := by
  have numeric : ∀ character ∈ DecimalText.integer number,
      isNumeric character = true :=
    fun _ characterMem => isNumeric_of_mem_integer characterMem
  rw [List.takeWhile_append_of_pos numeric, List.dropWhile_append_of_pos numeric]
  cases rest with
  | nil => simp
  | cons next rest => simp [ends next rfl]

/-! ### Values -/

theorem skipSpace_cons {first : Char}
    (notSpace : first ∉ [' ', '\t', '\n', '\r']) (rest : List Char) :
    skipSpace (first :: rest) = first :: rest := by
  rw [skipSpace, List.dropWhile_cons_of_neg (by simpa using notSpace)]

/-- Whether a value reads back from its text, whatever follows it, at any depth
that is at least the length of the text. -/
def ReadsBack (value : Json) : Prop :=
  ∀ (depth : Nat) (rest : List Char), value.write.length ≤ depth →
    EndsNumeral rest → readValue depth (value.write ++ rest) = some (value, rest)

theorem readsBack_null : ReadsBack null := by
  intro depth rest enough _
  cases depth with
  | zero => simp [write] at enough
  | succ depth => simp [write, readValue, skipSpace, afterWord?]

theorem readsBack_boolean (value : Bool) : ReadsBack (boolean value) := by
  intro depth rest enough _
  cases depth with
  | zero => cases value <;> simp [write] at enough
  | succ depth =>
      cases value <;> simp [write, readValue, skipSpace, afterWord?]

theorem readsBack_string (text : String) : ReadsBack (string text) := by
  intro depth rest enough _
  cases depth with
  | zero => simp [write, writeString] at enough
  | succ depth =>
      rw [write, writeString_append, readValue, skipSpace_cons (by decide)]
      simp [readString_escapeCharacters]

theorem readValue_of_isNumeric {first : Char}
    (numeric : isNumeric first = true) (depth : Nat) (rest : List Char) :
    readValue (depth + 1) (first :: rest) =
      (ofNumeral? ((first :: rest).takeWhile isNumeric)).map fun value =>
        (value, (first :: rest).dropWhile isNumeric) := by
  have ne : ∀ other, isNumeric other = false → first ≠ other := by
    rintro _ notNumeric rfl
    exact Bool.noConfusion (numeric.symm.trans notNumeric)
  have notSpace : first ∉ [' ', '\t', '\n', '\r'] := by
    simp [ne ' ' rfl, ne '\t' rfl, ne '\n' rfl, ne '\r' rfl]
  rw [readValue, skipSpace_cons notSpace]
  simp only [ne '"' rfl, ne '[' rfl, ne '{' rfl, ne 'n' rfl, ne 't' rfl,
    ne 'f' rfl, if_false]

theorem readsBack_integer (number : Int) : ReadsBack (integer number) := by
  intro depth rest enough ends
  obtain ⟨first, others, writtenEq⟩ :=
    List.exists_cons_of_ne_nil (DecimalText.integer_ne_nil number)
  have numeric : isNumeric first = true :=
    isNumeric_of_mem_integer (writtenEq ▸ List.mem_cons_self)
  obtain ⟨numeralEq, restEq⟩ := takeWhile_isNumeric_integer number ends
  rw [writtenEq, List.cons_append] at numeralEq restEq
  cases depth with
  | zero => simp [write, writtenEq] at enough
  | succ depth =>
      rw [write, writtenEq, List.cons_append, readValue_of_isNumeric numeric,
        numeralEq, restEq, ← writtenEq, ofNumeral?_integer, Option.map_some]

/-! ### Arrays and objects -/

theorem endsNumeral_cons {first : Char} {rest : List Char} :
    EndsNumeral (first :: rest) ↔ isNumeric first = false := by
  simp [EndsNumeral]

theorem readValue_of_closing {text rest : List Char}
    (closing : skipSpace text = ']' :: rest) (depth : Nat) :
    readValue depth text = none := by
  cases depth with
  | zero => rfl
  | succ depth =>
      simp [readValue, closing, isNumeric, ofNumeral?, ofUnsigned?,
        DecimalText.takeAllDigits, DecimalText.takeDigits]

theorem readItems_last {depth : Nat} {text rest : List Char} {first : Json}
    (read : readValue depth text = some (first, ']' :: rest)) :
    readItems (depth + 1) text = some ([first], rest) := by
  simp [readItems, read, skipSpace]

theorem readItems_comma {depth : Nat} {text more rest : List Char}
    {first : Json} {items : List Json}
    (read : readValue depth text = some (first, ',' :: more))
    (readMore : readItems depth more = some (items, rest)) :
    readItems (depth + 1) text = some (first :: items, rest) := by
  simp [readItems, read, skipSpace, readMore]

/-- The items that can be read behind an opening bracket make an array. -/
theorem readValue_array {depth : Nat} {text rest : List Char}
    {items : List Json} (read : readItems depth text = some (items, rest)) :
    readValue (depth + 1) ('[' :: text) = some (array items, rest) := by
  have notClosing : ∀ after, skipSpace text ≠ ']' :: after := by
    intro after closing
    cases depth with
    | zero => simp [readItems] at read
    | succ depth => simp [readItems, readValue_of_closing closing] at read
  rw [readValue, skipSpace_cons (by decide)]
  -- The brackets of an empty array are not before the reader.
  simp only [Char.reduceEq, if_false, if_true, read, Option.map_some]

theorem readItems_write {first : Json} {items : List Json}
    (readBack : ∀ item ∈ first :: items, ReadsBack item) {depth : Nat}
    (enough : (first.write ++ writeItems items).length ≤ depth)
    (rest : List Char) :
    readItems depth (first.write ++ (writeItems items ++ rest)) =
      some (first :: items, rest) := by
  have firstReadsBack := readBack first List.mem_cons_self
  induction items generalizing first depth with
  | nil =>
      cases depth with
      | zero => simp [writeItems] at enough
      | succ depth =>
          apply readItems_last
          exact firstReadsBack depth _ (by simpa [writeItems] using enough)
            (endsNumeral_cons.mpr rfl)
  | cons second items ih =>
      cases depth with
      | zero => simp [writeItems] at enough
      | succ depth =>
          simp only [writeItems, List.length_append, List.length_cons] at enough
          have readMore :
              readItems depth (second.write ++ (writeItems items ++ rest)) =
                some (second :: items, rest) := by
            refine ih ?_ ?_ (readBack second (by simp))
            · exact fun item itemMem =>
                readBack item (List.mem_cons_of_mem _ itemMem)
            · rw [List.length_append]
              omega
          refine readItems_comma ?_ readMore
          rw [writeItems, List.cons_append, List.cons_append, List.append_assoc]
          exact firstReadsBack depth _ (by omega) (endsNumeral_cons.mpr rfl)

theorem readsBack_array {items : List Json}
    (readBack : ∀ item ∈ items, ReadsBack item) : ReadsBack (array items) := by
  intro depth rest enough _
  cases depth with
  | zero => cases items <;> simp [write] at enough
  | succ depth =>
      cases items with
      | nil => simp [write, readValue, skipSpace]
      | cons first items =>
          have itemsRead := readItems_write readBack
            (by simpa [write] using enough) rest
          rw [write, List.cons_append, List.cons_append, List.append_assoc]
          exact readValue_array itemsRead

/-- A member is its name and the value behind the colon. -/
theorem readMembers_last {depth : Nat} {name : String} {text rest : List Char}
    {first : Json} (read : readValue depth text = some (first, '}' :: rest)) :
    readMembers (depth + 1) (writeString name ++ ':' :: text) =
      some ([(name, first)], rest) := by
  rw [writeString_append, readMembers, skipSpace_cons (by decide)]
  simp [readString_escapeCharacters, skipSpace, read]

theorem readMembers_comma {depth : Nat} {name : String}
    {text more rest : List Char} {first : Json} {members : List (String × Json)}
    (read : readValue depth text = some (first, ',' :: more))
    (readMore : readMembers depth more = some (members, rest)) :
    readMembers (depth + 1) (writeString name ++ ':' :: text) =
      some ((name, first) :: members, rest) := by
  rw [writeString_append, readMembers, skipSpace_cons (by decide)]
  simp [readString_escapeCharacters, skipSpace, read, readMore]

theorem readValue_object {depth : Nat} {name : String} {text rest : List Char}
    {members : List (String × Json)}
    (read : readMembers depth (writeString name ++ text) =
      some (members, rest)) :
    readValue (depth + 1) ('{' :: (writeString name ++ text)) =
      some (object members, rest) := by
  rw [writeString_append] at read ⊢
  rw [readValue, skipSpace_cons (by decide)]
  simp [skipSpace_cons, read]

theorem readMembers_write {name : String} {first : Json}
    {members : List (String × Json)}
    (readBack : ∀ member ∈ (name, first) :: members, ReadsBack member.2)
    {depth : Nat}
    (enough : (first.write ++ writeMembers members).length ≤ depth)
    (rest : List Char) :
    readMembers depth
        (writeString name ++ ':' :: (first.write ++
          (writeMembers members ++ rest))) =
      some ((name, first) :: members, rest) := by
  have firstReadsBack : first.ReadsBack :=
    readBack (name, first) List.mem_cons_self
  induction members generalizing name first depth with
  | nil =>
      cases depth with
      | zero => simp [writeMembers] at enough
      | succ depth =>
          apply readMembers_last
          exact firstReadsBack depth _ (by simpa [writeMembers] using enough)
            (endsNumeral_cons.mpr rfl)
  | cons member members ih =>
      obtain ⟨secondName, second⟩ := member
      cases depth with
      | zero => simp [writeMembers] at enough
      | succ depth =>
          simp only [writeMembers, List.length_append, List.length_cons] at enough
          have readMore :
              readMembers depth
                  (writeString secondName ++ ':' :: (second.write ++
                    (writeMembers members ++ rest))) =
                some ((secondName, second) :: members, rest) := by
            refine ih ?_ ?_ (readBack (secondName, second) (by simp))
            · exact fun item itemMem =>
                readBack item (List.mem_cons_of_mem _ itemMem)
            · rw [List.length_append]
              omega
          refine readMembers_comma ?_ readMore
          rw [writeMembers]
          simp only [List.cons_append, List.append_assoc]
          exact firstReadsBack depth _ (by omega) (endsNumeral_cons.mpr rfl)

theorem readsBack_object {members : List (String × Json)}
    (readBack : ∀ member ∈ members, ReadsBack member.2) :
    ReadsBack (object members) := by
  intro depth rest enough _
  cases depth with
  | zero =>
      cases members with
      | nil => simp [write] at enough
      | cons member members => simp [write] at enough
  | succ depth =>
      cases members with
      | nil => simp [write, readValue, skipSpace]
      | cons member members =>
          obtain ⟨name, first⟩ := member
          simp only [write, List.length_append, List.length_cons] at enough
          have enoughBehindName :
              (first.write ++ writeMembers members).length ≤ depth := by
            rw [List.length_append]
            omega
          have membersRead := readMembers_write readBack enoughBehindName rest
          rw [write]
          simp only [List.cons_append, List.append_assoc]
          exact readValue_object membersRead

/-- The values in which every number is an integer. -/
inductive Integral : Json → Prop where
  | null : Integral null
  | boolean (value : Bool) : Integral (boolean value)
  | integer (value : Int) : Integral (integer value)
  | string (text : String) : Integral (string text)
  | array {items : List Json} (integral : ∀ item ∈ items, Integral item) :
      Integral (array items)
  | object {members : List (String × Json)}
      (integral : ∀ member ∈ members, Integral member.2) :
      Integral (object members)

theorem Integral.readsBack {value : Json} (integral : value.Integral) :
    value.ReadsBack := by
  induction integral with
  | null => exact readsBack_null
  | boolean value => exact readsBack_boolean value
  | integer value => exact readsBack_integer value
  | string text => exact readsBack_string text
  | array _ ih => exact readsBack_array ih
  | object _ ih => exact readsBack_object ih

/-- A value in which every number is an integer reads back from its text. -/
theorem ofText?_text {value : Json} (integral : value.Integral) :
    ofText? value.text = some value := by
  have readBack := integral.readsBack (2 * value.write.length + 1) []
    (by omega) (by simp [EndsNumeral])
  rw [List.append_nil] at readBack
  simp [ofText?, text, readBack, skipSpace]

end Json

end FilterSql
