import FilterSql.Placeholders
import Mathlib.Algebra.Group.Nat.Even
import Mathlib.Algebra.GroupWithZero.Nat
import Mathlib.Data.List.Induction

/-!
# Counting placeholders

Scanning a text carries one bit, whether the scan is inside quotes, which is
whether it has met an odd number of them.  The placeholders are therefore the
marks that an even number of quotes stand before, and those of texts that end
outside quotes add up.
-/

namespace FilterSql

namespace Placeholders

/-- A scan meets a mark outside quotes or a character that it leaves alone. -/
theorem placeholder_or_plain (quoted : Bool) (character : Char) :
    (character = '?' ∧ quoted = false) ∨
      isPlaceholder quoted character = false := by
  cases quoted <;> simp [isPlaceholder, Decidable.em]

theorem countFrom_placeholder (rest : List Char) :
    countFrom false ('?' :: rest) = countFrom false rest + 1 :=
  Nat.add_comm 1 _

theorem countFrom_of_not_isPlaceholder {quoted : Bool} {first : Char}
    (plain : isPlaceholder quoted first = false) (rest : List Char) :
    countFrom quoted (first :: rest) =
      countFrom (quotedAfter quoted first) rest := by
  simp [countFrom, plain]

/-- Whether the scan is inside quotes after a text. -/
def quotedAfterText (quoted : Bool) (text : List Char) : Bool :=
  text.foldl quotedAfter quoted

theorem quotedAfterText_cons (quoted : Bool) (first : Char) (rest : List Char) :
    quotedAfterText quoted (first :: rest) =
      quotedAfterText (quotedAfter quoted first) rest :=
  rfl

theorem quotedAfterText_append (quoted : Bool) (first second : List Char) :
    quotedAfterText quoted (first ++ second) =
      quotedAfterText (quotedAfterText quoted first) second :=
  List.foldl_append

theorem countFrom_append (quoted : Bool) (first second : List Char) :
    countFrom quoted (first ++ second) =
      countFrom quoted first +
        countFrom (quotedAfterText quoted first) second := by
  induction first generalizing quoted with
  | nil => simp [countFrom, quotedAfterText]
  | cons character first ih =>
      rw [List.cons_append, countFrom, countFrom, ih, quotedAfterText_cons,
        Nat.add_assoc]

/-- The scan ends outside quotes when the quotes that it meets, with the one that
it starts in, are even in number. -/
theorem quotedAfterText_eq_false_iff {quoted : Bool} {text : List Char} :
    quotedAfterText quoted text = false ↔
      Even (quoted.toNat + text.count quote) := by
  induction text generalizing quoted with
  | nil => cases quoted <;> simp [quotedAfterText]
  | cons character rest ih =>
      rw [quotedAfterText_cons, ih]
      by_cases isQuote : character = quote
      · subst isQuote
        cases quoted <;> simp [quotedAfter, Nat.even_add, Nat.even_add_one]
      · simp [quotedAfter, isQuote]

theorem endsUnquoted_iff_even {text : List Char} :
    quotedAfterText false text = false ↔ Even (text.count quote) := by
  rw [quotedAfterText_eq_false_iff, Bool.toNat_false, Nat.zero_add]

/-- Whether a text has a mark outside quotes at a place. -/
def IsMarkAt (text : List Char) (place : Nat) : Prop :=
  text[place]? = some '?' ∧ Even ((text.take place).count quote)

instance (text : List Char) (place : Nat) : Decidable (IsMarkAt text place) :=
  inferInstanceAs (Decidable (_ ∧ _))

/-- The places of the marks outside quotes. -/
def marks (text : List Char) : List Nat :=
  (List.range text.length).filter (IsMarkAt text)

theorem isMarkAt_append_of_lt {text : List Char} {place : Nat}
    (inside : place < text.length) (rest : List Char) :
    IsMarkAt (text ++ rest) place ↔ IsMarkAt text place := by
  rw [IsMarkAt, IsMarkAt, List.getElem?_append_left inside,
    List.take_append_of_le_length (Nat.le_of_lt inside)]

theorem isMarkAt_concat_length {text : List Char} {last : Char} :
    IsMarkAt (text ++ [last]) text.length ↔
      isPlaceholder (quotedAfterText false text) last = true := by
  simp [IsMarkAt, isPlaceholder, endsUnquoted_iff_even]

theorem marks_concat (text : List Char) (last : Char) :
    marks (text ++ [last]) = marks text ++
      if isPlaceholder (quotedAfterText false text) last then [text.length]
      else [] := by
  have sameMarks : (List.range text.length).filter
      (IsMarkAt (text ++ [last])) = marks text := by
    refine List.filter_congr fun place placeMem => ?_
    simp [isMarkAt_append_of_lt (List.mem_range.mp placeMem)]
  rw [marks, List.length_append, List.length_singleton, List.range_succ,
    List.filter_append, sameMarks]
  congr 1
  split
  case isTrue marked => simp [isMarkAt_concat_length.mpr marked]
  case isFalse unmarked =>
    have notMark : ¬IsMarkAt (text ++ [last]) text.length :=
      mt isMarkAt_concat_length.mp unmarked
    simp [notMark]

/-- The scan counts the marks outside quotes. -/
theorem length_marks (text : List Char) : (marks text).length = count text := by
  -- Places are counted from the start, so the text grows at its end.
  induction text using List.reverseRecOn with
  | nil => rfl
  | append_singleton text last ih =>
      rw [marks_concat, List.length_append, ih, count, count, countFrom_append]
      congr 1
      rw [countFrom]
      split <;> rfl

/-- Whether a text ends outside quotes and has a given number of
placeholders. -/
def HasPlaceholders (text : String) (number : Nat) : Prop :=
  quotedAfterText false text.toList = false ∧ count text.toList = number

instance (text : String) (number : Nat) :
    Decidable (HasPlaceholders text number) :=
  inferInstanceAs (Decidable (_ ∧ _))

/-- Whether a text ends outside quotes and has no placeholder. -/
def IsNeutral (text : String) : Prop :=
  HasPlaceholders text 0

instance (text : String) : Decidable (IsNeutral text) :=
  inferInstanceAs (Decidable (HasPlaceholders text 0))

variable {first second separator text : String} {number firstNumber : Nat}

theorem HasPlaceholders.append {secondNumber : Nat}
    (firstHas : HasPlaceholders first firstNumber)
    (secondHas : HasPlaceholders second secondNumber) :
    HasPlaceholders (first ++ second) (firstNumber + secondNumber) := by
  unfold HasPlaceholders count at *
  rw [String.toList_append, quotedAfterText_append, countFrom_append,
    firstHas.1, firstHas.2]
  exact ⟨secondHas.1, by rw [secondHas.2]⟩

theorem HasPlaceholders.append_neutral (firstHas : HasPlaceholders first number)
    (neutral : IsNeutral second) : HasPlaceholders (first ++ second) number :=
  firstHas.append neutral

theorem IsNeutral.append (firstNeutral : IsNeutral first)
    (secondHas : HasPlaceholders second number) :
    HasPlaceholders (first ++ second) number := by
  have appended := HasPlaceholders.append firstNeutral secondHas
  rwa [Nat.zero_add] at appended

theorem isNeutral_of_forall_ne
    (plain : ∀ character ∈ text.toList, character ≠ quote ∧ character ≠ '?') :
    IsNeutral text := by
  unfold IsNeutral HasPlaceholders count
  generalize text.toList = characters at plain ⊢
  induction characters with
  | nil => exact ⟨rfl, rfl⟩
  | cons character rest ih =>
      obtain ⟨notQuote, notMark⟩ := plain character List.mem_cons_self
      obtain ⟨restUnquoted, restCount⟩ := ih fun other otherMem =>
        plain other (List.mem_cons_of_mem _ otherMem)
      have unquoted : quotedAfter false character = false := by
        simp [quotedAfter, notQuote]
      have unmarked : isPlaceholder false character = false := by
        simp [isPlaceholder, notMark]
      constructor
      · rw [quotedAfterText_cons, unquoted]
        exact restUnquoted
      · rw [countFrom_of_not_isPlaceholder unmarked, unquoted, restCount]

/-- The placeholders of joined texts add up. -/
theorem HasPlaceholders.intercalate {α : Type} {items : List α}
    {textOf : α → String} {numberOf : α → Nat} (neutral : IsNeutral separator)
    (itemsHave : ∀ item ∈ items, HasPlaceholders (textOf item) (numberOf item)) :
    HasPlaceholders (String.intercalate separator (items.map textOf))
      (items.map numberOf).sum := by
  induction items with
  | nil =>
      rw [List.map_nil, String.intercalate_nil]
      exact ⟨rfl, rfl⟩
  | cons item items ih =>
      have itemHas := itemsHave item List.mem_cons_self
      have restHave := ih fun other otherMem =>
        itemsHave other (List.mem_cons_of_mem _ otherMem)
      cases items with
      | nil =>
          rw [List.map_singleton, String.intercalate_singleton]
          simpa using itemHas
      | cons next items =>
          rw [List.map_cons, List.map_cons, String.intercalate_cons_cons,
            List.map_cons, List.sum_cons]
          exact (itemHas.append_neutral neutral).append restHave

theorem IsNeutral.intercalate {texts : List String}
    (neutral : IsNeutral separator)
    (textsNeutral : ∀ text ∈ texts, IsNeutral text) :
    IsNeutral (String.intercalate separator texts) := by
  have joined : HasPlaceholders
      (String.intercalate separator (texts.map fun text => text))
      (texts.map fun _ => 0).sum :=
    HasPlaceholders.intercalate neutral textsNeutral
  simpa [IsNeutral, List.map_const'] using joined

theorem replacements_of_isList {value : Value} (noList : value.isList = false) :
    replacements value = [value] := by
  cases value with
  | list items => simp [Value.isList] at noList
  | _ => rfl

theorem placeholders_succ_succ (number : Nat) :
    placeholders (number + 1 + 1) =
      '?' :: ',' :: ' ' :: placeholders (number + 1) := by
  simp [placeholders, List.replicate_succ, List.intercalate_cons_cons]

theorem countFrom_placeholders_append (number : Nat) (text : List Char) :
    countFrom false (placeholders number ++ text) =
      number + countFrom false text := by
  induction number with
  | zero => simp [placeholders]
  | succ number ih =>
      cases number with
      | zero => simp [placeholders, countFrom, isPlaceholder, quotedAfter, quote]
      | succ number =>
          have markCounts : countFrom false
              ('?' :: ',' :: ' ' :: placeholders (number + 1) ++ text) =
                1 + (0 + (0 + countFrom false (placeholders (number + 1) ++ text))) :=
            rfl
          rw [placeholders_succ_succ, markCounts, ih]
          omega

end Placeholders

end FilterSql
