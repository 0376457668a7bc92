import DebugRecovery.Json.Reader
import DebugRecovery.Json.Writer
import Mathlib.Data.List.Basic
import Mathlib.Tactic.IntervalCases

/-!
# Tokens of JSON text read back

The pieces that JSON text is written in, each read back from the text that
starts with it: the gaps between tokens, strings, whole numbers and words. What
is left to read is exactly what came after the piece. A number ends where
nothing follows that could be part of it, so that what comes after a value
matters: nothing, a comma, or a line end.
-/

set_option autoImplicit false

namespace DebugRecovery.Json

variable {rest : List Char} {position : Nat}

theorem take_while_front {front : List Char} {test : Char → Bool}
    (inside : ∀ character ∈ front, test character = true)
    (stops : ∀ next ∈ rest.head?, test next = false) : (front ++ rest).takeWhile test = front := by
  have empty : rest.takeWhile test = [] := by
    cases rest with
    | nil => rfl
    | cons next others => simp [stops next rfl]
  rw [List.takeWhile_append_of_pos inside, empty, List.append_nil]

theorem solid_cons {first : Char} (solid : isSpace first = false) (rest : List Char) :
    ∀ next ∈ (first :: rest).head?, isSpace next = false := by
  intro next head
  rw [← Option.some.inj head]
  exact solid

theorem skip_spaces_gap {gap : List Char} (position : Nat)
    (blank : ∀ character ∈ gap, isSpace character = true)
    (solid : ∀ next ∈ rest.head?, isSpace next = false) :
    (Cursor.mk (gap ++ rest) position).skipSpaces = ⟨rest, position + gap.length⟩ := by
  simp only [Cursor.skipSpaces, Cursor.take, take_while_front blank solid, List.drop_left]

theorem skip_spaces_solid (position : Nat) (solid : ∀ next ∈ rest.head?, isSpace next = false) :
    (Cursor.mk rest position).skipSpaces = ⟨rest, position⟩ := by
  have blank : ∀ character ∈ ([] : List Char), isSpace character = true := by simp
  exact skip_spaces_gap position blank solid

theorem new_line_blank (level : Nat) :
    ∀ character ∈ newLine level, isSpace character = true := by
  intro character inside
  rw [newLine, List.mem_cons, List.mem_replicate] at inside
  rcases inside with rfl | ⟨_, rfl⟩
  · rfl
  · rfl

theorem skip_spaces_new_line (level position : Nat)
    (solid : ∀ next ∈ rest.head?, isSpace next = false) :
    (Cursor.mk (newLine level ++ rest) position).skipSpaces =
      ⟨rest, position + (newLine level).length⟩ :=
  skip_spaces_gap position (new_line_blank level) solid

section Strings

variable {start : Nat} {done : List Char}

theorem scan_plain {character : Char} (quote : character ≠ '"') (slash : character ≠ '\\')
    (visible : 32 ≤ character.toNat) :
    scanString start done (character :: rest) position =
      scanString start (character :: done) rest (position + 1) := by
  have allowed : ¬ character.toNat < 32 := by omega
  simp [scanString, slash, allowed]

theorem scan_short {letter character : Char} (ordinary : letter ≠ 'u')
    (escape : plainEscape? letter = some character) :
    scanString start done ('\\' :: letter :: rest) position =
      scanString start (character :: done) rest (position + 2) := by
  simp [scanString, ordinary, escape]

/-- A code that is no first half stands for itself, also when another code comes next. -/
theorem scan_code {a b c d next : Char} {code : Nat} (digits : fourDigits? a b c d = some code)
    (whole : isHighHalf code = false) :
    scanString start done ('\\' :: 'u' :: a :: b :: c :: d :: next :: rest) position =
      scanString start (codeCharacter code :: done) (next :: rest) (position + 6) := by
  by_cases followed : ∃ e f g h after others,
      next = '\\' ∧ rest = 'u' :: e :: f :: g :: h :: after :: others
  · obtain ⟨e, f, g, h, after, others, rfl, rfl⟩ := followed
    simp [scanString, digits, whole]
  · have lone : ∀ e f g h after others,
        next = '\\' → rest = 'u' :: e :: f :: g :: h :: after :: others → False := by
      intro e f g h after others slash code
      exact followed ⟨e, f, g, h, after, others, slash, code⟩
    rw [scanString.eq_5 _ _ _ _ _ _ _ _ _ lone, digits]

theorem scan_pair {a b c d e f g h next : Char} {high low : Nat}
    (first : fourDigits? a b c d = some high) (upper : isHighHalf high = true)
    (second : fourDigits? e f g h = some low) (lower : isLowHalf low = true) :
    scanString start done
        ('\\' :: 'u' :: a :: b :: c :: d :: '\\' :: 'u' :: e :: f :: g :: h :: next :: rest)
        position =
      scanString start (joinHalves high low :: done) (next :: rest) (position + 12) := by
  simp [scanString, first, upper, second, lower]

/-- The digit at a place of a number in base sixteen. -/
theorem hex_digit_remainder (value : Nat) :
    Text.hexDigit? (Text.hexDigit (value % 16)) = some (value % 16) :=
  Text.hex_digit_read ⟨value % 16, Nat.mod_lt value (by decide)⟩

theorem unit_escape_eq (code : Nat) :
    unitEscape code = ['\\', 'u', Text.hexDigit (code / 16 / 16 / 16 % 16),
      Text.hexDigit (code / 16 / 16 % 16), Text.hexDigit (code / 16 % 16),
      Text.hexDigit (code % 16)] := rfl

theorem four_digits_read {code : Nat} (bound : code < 0x10000) :
    fourDigits? (Text.hexDigit (code / 16 / 16 / 16 % 16)) (Text.hexDigit (code / 16 / 16 % 16))
      (Text.hexDigit (code / 16 % 16)) (Text.hexDigit (code % 16)) = some code := by
  have joined : ((code / 16 / 16 / 16 % 16 * 16 + code / 16 / 16 % 16) * 16 + code / 16 % 16) * 16 +
      code % 16 = code := by
    omega
  simp [fourDigits?, hex_digit_remainder, joined]

theorem scan_unit_escape {code : Nat} {next : Char} (bound : code < 0x10000)
    (whole : isHighHalf code = false) :
    scanString start done (unitEscape code ++ next :: rest) position =
      scanString start (codeCharacter code :: done) (next :: rest) (position + 6) := by
  rw [unit_escape_eq]
  exact scan_code (four_digits_read bound) whole

theorem scan_unit_escapes {high low : Nat} {next : Char} (upper : isHighHalf high = true)
    (lower : isLowHalf low = true) :
    scanString start done (unitEscape high ++ (unitEscape low ++ next :: rest)) position =
      scanString start (joinHalves high low :: done) (next :: rest) (position + 12) := by
  have small : high < 0x10000 := by
    simp only [isHighHalf, Bool.and_eq_true, decide_eq_true_eq] at upper
    omega
  have short : low < 0x10000 := by
    simp only [isLowHalf, Bool.and_eq_true, decide_eq_true_eq] at lower
    omega
  rw [unit_escape_eq, unit_escape_eq]
  exact scan_pair (four_digits_read small) upper (four_digits_read short) lower

/-- A character has no code among those of the halves. -/
theorem code_whole (character : Char) :
    character.toNat < 0xD800 ∨ 0xDFFF < character.toNat ∧ character.toNat < 0x110000 :=
  character.valid

theorem code_character_code (character : Char) : codeCharacter character.toNat = character := by
  have whole : ¬ (0xD800 ≤ character.toNat ∧ character.toNat ≤ 0xDFFF) := by
    have apart := code_whole character
    omega
  simp only [codeCharacter, Bool.and_eq_true, decide_eq_true_eq, if_neg whole,
    Char.ofNat_toNat]

theorem join_halves_code {character : Char} (above : 0x10000 ≤ character.toNat) :
    joinHalves (0xD800 + (character.toNat - 0x10000) / 0x400)
      (0xDC00 + (character.toNat - 0x10000) % 0x400) = character := by
  have joined : 0x10000 + (0xD800 + (character.toNat - 0x10000) / 0x400 - 0xD800) * 0x400 +
      (0xDC00 + (character.toNat - 0x10000) % 0x400 - 0xDC00) = character.toNat := by
    omega
  rw [joinHalves, joined, Char.ofNat_toNat]

theorem scan_code_units (character next : Char) :
    ∃ later, scanString start done (codeUnits character.toNat ++ next :: rest) position =
      scanString start (character :: done) (next :: rest) later := by
  have valid := code_whole character
  unfold codeUnits
  split
  · rename_i below
    have whole : isHighHalf character.toNat = false := by
      simp only [isHighHalf, Bool.and_eq_false_iff, decide_eq_false_iff_not]
      omega
    refine ⟨position + 6, ?_⟩
    rw [scan_unit_escape below whole, code_character_code]
  · rename_i above
    have upper : isHighHalf (0xD800 + (character.toNat - 0x10000) / 0x400) = true := by
      simp only [isHighHalf, Bool.and_eq_true, decide_eq_true_eq]
      omega
    have lower : isLowHalf (0xDC00 + (character.toNat - 0x10000) % 0x400) = true := by
      simp only [isLowHalf, Bool.and_eq_true, decide_eq_true_eq]
      omega
    refine ⟨position + 12, ?_⟩
    dsimp only
    rw [List.append_assoc, scan_unit_escapes upper lower, join_halves_code (by omega)]

/-- A character that is written is read back, whatever way it was written in. The character after
it is the next one of the string or the closing quote. -/
theorem scan_written_character (start : Nat) (done rest : List Char) (position : Nat)
    (character next : Char) :
    ∃ later, scanString start done (writtenCharacter character ++ next :: rest) position =
      scanString start (character :: done) (next :: rest) later := by
  unfold writtenCharacter
  split
  case h_8 quote slash _ _ _ _ _ =>
    dsimp only
    split
    · rename_i printable
      simp only [Bool.and_eq_true, decide_eq_true_eq] at printable
      exact ⟨position + 1, scan_plain quote slash printable.1⟩
    · exact scan_code_units character next
  all_goals exact ⟨position + 2, scan_short (by decide) rfl⟩

theorem scan_written_characters (start : Nat) (done rest : List Char) (position : Nat)
    (text : List Char) :
    ∃ last, scanString start done (text.flatMap writtenCharacter ++ '"' :: rest) position =
      .ok (String.ofList (done.reverse ++ text), ⟨rest, last⟩) := by
  induction text generalizing done position with
  | nil => exact ⟨position + 1, by simp [scanString]⟩
  | cons character text induction =>
      -- Reading a code looks at the character after it, so that one is named first.
      obtain ⟨next, others, later⟩ : ∃ next others,
          text.flatMap writtenCharacter ++ '"' :: rest = next :: others := by
        cases text.flatMap writtenCharacter with
        | nil => exact ⟨_, _, rfl⟩
        | cons next others => exact ⟨_, _, rfl⟩
      obtain ⟨place, scanned⟩ := scan_written_character start done others position character next
      obtain ⟨last, finished⟩ := induction (character :: done) place
      refine ⟨last, ?_⟩
      rw [List.flatMap_cons, List.append_assoc, later, scanned, ← later, finished]
      simp

theorem scan_written_string (start : Nat) (rest : List Char) (position : Nat) (text : String) :
    ∃ last, scanString start [] (text.toList.flatMap writtenCharacter ++ '"' :: rest) position =
      .ok (text, ⟨rest, last⟩) := by
  obtain ⟨last, scanned⟩ := scan_written_characters start [] rest position text.toList
  refine ⟨last, ?_⟩
  rw [scanned]
  simp

end Strings

/-- What can stand after a value: nothing, a comma, or a line end. -/
def Parted (rest : List Char) : Prop := ∀ next ∈ rest.head?, next = ',' ∨ next = '\n'

theorem is_digit_eq (character : Char) : isDigit character = character.isDigit := by
  have lower : '0'.val.toNat = 48 := rfl
  have upper : '9'.val.toNat = 57 := rfl
  simp only [isDigit, Text.digit?, Char.isDigit, ge_iff_le, UInt32.le_iff_toNat_le, lower, upper,
    Char.toNat]
  split
  · simp_all
  · simp_all

theorem decimal_digits_digit (value : Nat) :
    ∀ digit ∈ Text.decimalDigits value, isDigit digit = true := by
  intro digit inside
  rw [is_digit_eq]
  exact Nat.isDigit_of_mem_toDigits (by decide) (by decide) inside

theorem digit_value {digit : Char} (decimal : isDigit digit = true) :
    (Text.digit? digit).getD 0 = digit.toNat - 48 := by
  unfold isDigit at decimal
  unfold Text.digit? at decimal ⊢
  dsimp only at decimal ⊢
  split
  · rfl
  · simp_all

theorem number_of_eq {digits : List Char} (all : ∀ digit ∈ digits, isDigit digit = true) :
    numberOf digits = Nat.ofDigitChars 10 digits 0 := by
  rw [numberOf, Nat.ofDigitChars_eq_foldl]
  apply List.foldl_ext
  intro value digit inside
  rw [digit_value (all digit inside), Nat.mul_comm]
  rfl

theorem number_of_decimal_digits (value : Nat) : numberOf (Text.decimalDigits value) = value := by
  rw [number_of_eq (decimal_digits_digit value)]
  exact Nat.ofDigitChars_ten_toDigits

theorem decimal_digits_step (value : Nat) :
    Text.decimalDigits value = if value < 10 then [value.digitChar]
      else Text.decimalDigits (value / 10) ++ [(value % 10).digitChar] :=
  Nat.toDigits_eq_if (by decide)

/-- No positive number starts with a zero. -/
theorem decimal_digits_head {value : Nat} (positive : 0 < value) :
    ∃ first others, Text.decimalDigits value = first :: others ∧ first ≠ '0' := by
  induction value using Nat.strong_induction_on with
  | h value induction =>
      rw [decimal_digits_step]
      split
      · refine ⟨_, _, rfl, ?_⟩
        interval_cases value <;> decide
      · have shorter : value / 10 < value := by omega
        have remaining : 0 < value / 10 := by omega
        obtain ⟨first, others, digits, nonzero⟩ := induction _ shorter remaining
        rw [digits]
        exact ⟨first, _, rfl, nonzero⟩

/-- Nothing that can stand after a value goes on with a number. -/
theorem number_ends (parted : Parted rest) :
    (∀ next ∈ rest.head?, isDigit next = false) ∧ fractionPart rest = [] ∧
      exponentPart rest = [] := by
  cases rest with
  | nil => exact ⟨by simp, rfl, rfl⟩
  | cons next others =>
      rcases parted next rfl with rfl | rfl
      · exact ⟨by simp [isDigit, Text.digit?], rfl, rfl⟩
      · exact ⟨by simp [isDigit, Text.digit?], rfl, rfl⟩

theorem whole_part_decimal (value : Nat) (parted : Parted rest) :
    wholePart? (Text.decimalDigits value ++ rest) = some (Text.decimalDigits value) := by
  by_cases zero : value = 0
  · subst zero
    rfl
  · obtain ⟨first, others, digits, nonzero⟩ := decimal_digits_head (Nat.pos_of_ne_zero zero)
    have ended := take_while_front (decimal_digits_digit value) (number_ends parted).1
    rw [digits] at ended ⊢
    unfold wholePart?
    split
    · simp_all
    · rw [ended]

/-- The digits start the text, so that it starts with no sign and no word. -/
theorem decimal_digits_first (value : Nat) :
    ∃ first others, Text.decimalDigits value = first :: others ∧ isDigit first = true := by
  cases digits : Text.decimalDigits value with
  | nil => exact absurd digits Nat.toDigits_ne_nil
  | cons first others =>
      have all := decimal_digits_digit value
      rw [digits] at all
      exact ⟨first, others, rfl, all first (by simp)⟩

/-- Digits are read with no sign before them. -/
theorem scan_natural {limits : Limits} (position value : Nat) (parted : Parted rest)
    (short : limits.exceeded? (Text.decimalDigits value).length = none) :
    ∃ last, scanNumber limits ⟨Text.decimalDigits value ++ rest, position⟩ =
      .ok (.integer value, ⟨rest, last⟩) := by
  have whole := whole_part_decimal value parted
  have number := number_of_decimal_digits value
  obtain ⟨_, fraction, exponent⟩ := number_ends parted
  obtain ⟨first, others, digits, decimal⟩ := decimal_digits_first value
  have unsigned : first ≠ '-' := by
    rintro rfl
    contradiction
  rw [digits] at whole number short ⊢
  rw [List.length_cons] at short
  refine ⟨position + (first :: others).length, ?_⟩
  rw [List.cons_append] at whole ⊢
  simp [scanNumber, unsigned, whole, number, short, fraction, exponent, Cursor.take]

theorem scan_negative {limits : Limits} (position value : Nat) (parted : Parted rest)
    (short : limits.exceeded? (Text.decimalDigits value).length = none) :
    ∃ last, scanNumber limits ⟨'-' :: (Text.decimalDigits value ++ rest), position⟩ =
      .ok (.integer (-value), ⟨rest, last⟩) := by
  have whole := whole_part_decimal value parted
  have number := number_of_decimal_digits value
  obtain ⟨_, fraction, exponent⟩ := number_ends parted
  refine ⟨position + ((Text.decimalDigits value).length + 1), ?_⟩
  simp [scanNumber, whole, number, short, fraction, exponent, Cursor.take, Nat.add_comm 1]

theorem digit_ne {digit letter : Char} (decimal : isDigit digit = true)
    (other : isDigit letter = false) : digit ≠ letter := by
  rintro rfl
  rw [decimal] at other
  contradiction

/-- No word starts with a digit, nor with a minus sign and a digit. -/
theorem literal_of_digit {digit : Char} (rest : List Char) (position : Nat)
    (decimal : isDigit digit = true) :
    literal? ⟨digit :: rest, position⟩ = none ∧
      literal? ⟨'-' :: digit :: rest, position⟩ = none := by
  have other : ∀ letter, isDigit letter = false → (letter == digit) = false := by
    intro letter letterOther
    exact beq_false_of_ne (digit_ne decimal letterOther).symm
  have n := other 'n' rfl
  have t := other 't' rfl
  have f := other 'f' rfl
  have large := other 'N' rfl
  have infinite := other 'I' rfl
  have signed := other '-' rfl
  constructor
  · simp [literal?, literals, List.isPrefixOf, n, t, f, large, infinite, signed]
  · simp [literal?, literals, List.isPrefixOf, infinite]

end DebugRecovery.Json
