import DebugRecovery.Lookup
import DebugRecovery.Proofs.Signature
import DebugRecovery.Proofs.Text.Words

/-!
# How a signature is spelled

A text spells a signature exactly when each of its words is one or two question
marks or two hexadecimal digits; any other text is refused as a whole. A token
has several spellings: its digits may be of either case, a free place may be one
question mark or two, and the blanks between tokens are free. Texts that differ
in nothing else spell the same signature, so that a search for either one answers
the same.
-/

set_option autoImplicit false

namespace DebugRecovery

namespace Text

/-- The digits of hexadecimal numbers, in both cases. -/
def allHexDigits : List Char := "0123456789abcdefABCDEF".toList

theorem hex_digit_some_iff (character : Char) :
    (∃ value, hexDigit? character = some value) ↔ character ∈ allHexDigits := by
  constructor
  · rintro ⟨value, read⟩
    have small : character.toNat < 103 := by
      by_contra large
      unfold hexDigit? at read
      grind
    -- Below the bound every character is checked.
    have listed : ∀ code : Fin 103, hexDigit? (Char.ofNat code) ≠ none →
        Char.ofNat code ∈ allHexDigits := by decide +kernel
    have found := listed ⟨character.toNat, small⟩
    rw [Char.ofNat_toNat, read] at found
    exact found (by simp)
  · intro digit
    have all : (allHexDigits.all fun other => (hexDigit? other).isSome) = true := by decide
    exact Option.isSome_iff_exists.mp (List.all_eq_true.mp all character digit)

/-- Only letters of ASCII have a lower case here. -/
theorem ascii_or_lower (character : Char) :
    character.toNat < 128 ∨ character.toLower = character := by
  by_cases small : character.toNat < 128
  · exact Or.inl small
  · refine Or.inr (dif_neg ?_)
    rintro ⟨_, upper⟩
    exact small (Nat.lt_of_le_of_lt (UInt32.le_iff_toNat_le.mp upper) (by decide))

theorem hex_digit_lower (character : Char) : hexDigit? character.toLower = hexDigit? character := by
  rcases ascii_or_lower character with small | same
  · have all : ∀ code : Fin 128,
        hexDigit? (Char.ofNat code).toLower = hexDigit? (Char.ofNat code) := by decide +kernel
    have here := all ⟨character.toNat, small⟩
    rwa [Char.ofNat_toNat] at here
  · rw [same]

theorem mark_of_lower {character : Char} (mark : character.toLower = '?') : character = '?' := by
  rcases ascii_or_lower character with small | same
  · have all : ∀ code : Fin 128,
        (Char.ofNat code).toLower = '?' → Char.ofNat code = '?' := by decide +kernel
    have here := all ⟨character.toNat, small⟩
    rw [Char.ofNat_toNat] at here
    exact here mark
  · rwa [same] at mark

end Text

namespace Token

variable {word other : List Char} {token : Token}

/-- The word stands for a free place. -/
def IsFree (word : List Char) : Prop := word = ['?'] ∨ word = ['?', '?']

/-- The word is two hexadecimal digits. -/
def IsByte (word : List Char) : Prop :=
  ∃ high low, word = [high, low] ∧ high ∈ Text.allHexDigits ∧ low ∈ Text.allHexDigits

/-- The words are the same token, but for the case of digits and the count of question marks. -/
def Alike (word other : List Char) : Prop :=
  IsFree word ∧ IsFree other ∨ word.map Char.toLower = other.map Char.toLower

theorem spells_some_iff (word : List Char) :
    (∃ token, Spells word token) ↔ IsFree word ∨ IsByte word := by
  constructor
  · rintro ⟨token, spells⟩
    cases spells with
    | one => exact Or.inl (Or.inl rfl)
    | two => exact Or.inl (Or.inr rfl)
    | byte high low upper lower first second =>
        exact Or.inr ⟨high, low, rfl, (Text.hex_digit_some_iff high).mp ⟨upper, first⟩,
          (Text.hex_digit_some_iff low).mp ⟨lower, second⟩⟩
  · rintro ((rfl | rfl) | ⟨high, low, rfl, first, second⟩)
    · exact ⟨.any, .one⟩
    · exact ⟨.any, .two⟩
    · obtain ⟨upper, readUpper⟩ := (Text.hex_digit_some_iff high).mpr first
      obtain ⟨lower, readLower⟩ := (Text.hex_digit_some_iff low).mpr second
      exact ⟨_, .byte high low upper lower readUpper readLower⟩

theorem spells_lower_iff (word : List Char) (token : Token) :
    Spells (word.map Char.toLower) token ↔ Spells word token := by
  constructor
  · intro spells
    generalize lowered : word.map Char.toLower = written at spells
    cases spells with
    | one =>
        obtain ⟨mark, rfl, same⟩ := List.map_eq_singleton_iff.mp lowered
        rw [Text.mark_of_lower same]
        exact .one
    | two =>
        obtain ⟨first, rest, rfl, same, further⟩ := List.map_eq_cons_iff.mp lowered
        obtain ⟨second, rfl, last⟩ := List.map_eq_singleton_iff.mp further
        rw [Text.mark_of_lower same, Text.mark_of_lower last]
        exact .two
    | byte high low upper lower first second =>
        obtain ⟨digit, rest, rfl, rfl, further⟩ := List.map_eq_cons_iff.mp lowered
        obtain ⟨other, rfl, rfl⟩ := List.map_eq_singleton_iff.mp further
        rw [Text.hex_digit_lower] at first second
        exact .byte digit other upper lower first second
  · intro spells
    cases spells with
    | one => exact .one
    | two => exact .two
    | byte high low upper lower first second =>
        rw [← Text.hex_digit_lower] at first second
        exact .byte high.toLower low.toLower upper lower first second

theorem spells_free_iff (free : IsFree word) (token : Token) : Spells word token ↔ token = .any := by
  rcases free with rfl | rfl
  · exact ⟨fun spells => by cases spells; rfl, fun same => same ▸ .one⟩
  · refine ⟨fun spells => ?_, fun same => same ▸ .two⟩
    cases spells with
    | two => rfl
    | byte _ _ _ _ first _ => contradiction

theorem spells_alike (alike : Alike word other) : Spells word token ↔ Spells other token := by
  rcases alike with ⟨free, alsoFree⟩ | same
  · rw [spells_free_iff free, spells_free_iff alsoFree]
  · rw [← spells_lower_iff word, same, spells_lower_iff]

theorem each_spells_alike {words others : List (List Char)} {tokens : List Token}
    (alike : List.Forall₂ Alike words others) (spelled : List.Forall₂ Spells words tokens) :
    List.Forall₂ Spells others tokens := by
  induction alike generalizing tokens with
  | nil => exact spelled
  | cons same _ induction =>
      cases spelled with
      | cons first further => exact .cons ((spells_alike same).mp first) (induction further)

end Token

namespace Signature

variable {text other : String}

/-- Every longest run of characters that are not blank is a token. -/
def WellSpelled (text : String) : Prop :=
  ∀ word, Text.LongestRun text.toList word → Token.IsFree word ∨ Token.IsByte word

/-- The words of the texts are alike, each to its own. -/
def Alike (text other : String) : Prop :=
  ∃ words others, Text.Parted text.toList words ∧ Text.Parted other.toList others ∧
    List.Forall₂ Token.Alike words others

theorem well_spelled_iff (text : String) : (∃ tokens, Spelled text tokens) ↔ WellSpelled text := by
  unfold Spelled WellSpelled
  simp only [← Text.mem_words_iff, ← Token.spells_some_iff]
  constructor
  · rintro ⟨tokens, each⟩ word member
    obtain ⟨token, _, spells⟩ := each_item each member
    exact ⟨token, spells⟩
  · exact each_of_all

theorem of_text_ok_iff (text : String) (tokens : Signature) :
    ofText text = .ok tokens ↔ Spelled text tokens := by
  rw [← of_text_some_iff, ofText]
  cases ofText? text <;> simp

theorem of_text_error_iff (text : String) (failure : LookupFailure) :
    ofText text = .error failure ↔ ¬ WellSpelled text ∧ failure = .malformed text "" := by
  rw [← well_spelled_iff]
  simp only [← of_text_some_iff, ofText]
  cases ofText? text with
  | none => simp [eq_comm]
  | some tokens => simp

/-- Alike texts spell the same signature. -/
theorem spelled_alike {tokens : Signature} (alike : Alike text other)
    (spelled : Spelled text tokens) : Spelled other tokens := by
  obtain ⟨words, others, parted, partedOther, each⟩ := alike
  unfold Spelled at spelled ⊢
  rw [Text.words_of_parted parted] at spelled
  rw [Text.words_of_parted partedOther]
  exact Token.each_spells_alike each spelled

/-- A text spells a signature exactly when each of its longest runs of characters that are not blank
is a token, and is refused as a whole otherwise. The texts that are like it spell the same signature,
for which a search answers the same in all data. -/
theorem well_spelled_texts_read (text : String) :
    ((∃ tokens, ofText text = .ok tokens) ↔ WellSpelled text) ∧
    (∀ failure, ofText text = .error failure ↔
      ¬ WellSpelled text ∧ failure = .malformed text "") ∧
    ∀ other, Alike text other → ∀ tokens, ofText text = .ok tokens →
      ∃ others, ofText other = .ok others ∧ ∀ data, others.find? data = tokens.find? data := by
  refine ⟨?_, of_text_error_iff text, ?_⟩
  · simp only [of_text_ok_iff, well_spelled_iff]
  · intro other alike tokens read
    have spelled := (of_text_ok_iff text tokens).mp read
    exact ⟨tokens, (of_text_ok_iff other tokens).mpr (spelled_alike alike spelled), fun _ => rfl⟩

/-- An em space and an information separator are blanks too. -/
example : ofText "\u20038b\x1c?\n" = ofText "8B ??" := by decide +kernel

/-- A digit of another script is none here, and a number that is marked as hexadecimal no byte. -/
example : ofText "8B \uff10\uff11" = .error (.malformed "8B \uff10\uff11" "") ∧
    ofText "0x12" = .error (.malformed "0x12" "") := by decide +kernel

end Signature

end DebugRecovery
