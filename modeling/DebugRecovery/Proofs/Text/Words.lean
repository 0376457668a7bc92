import DebugRecovery.Text.Blank
import Mathlib.Data.List.Basic

/-!
# The words of a text

The words of a text are its longest runs of characters that are not blank: every
such run is among them, and nothing else is. They come in the order of the text,
and a blank stands between two of them. How many blanks there are, which ones,
and whether some stand at the ends of the text makes no difference.
-/

set_option autoImplicit false

namespace DebugRecovery.Text

/-- One character at least, and no blank. -/
def Solid (word : List Char) : Prop := word ≠ [] ∧ ∀ character ∈ word, isBlank character = false

/-- Nothing comes next, or a blank. -/
def EndsWord (text : List Char) : Prop := ∀ next ∈ text.head?, isBlank next = true

/-- A solid part of the text, with a blank or an end of the text on either side. -/
def LongestRun (text word : List Char) : Prop :=
  ∃ front back, text = front ++ (word ++ back) ∧ Solid word ∧ EndsWord front.reverse ∧ EndsWord back

/-- The parts are solid and in the order of the text, which has blanks between them and, it may be,
at its ends. -/
inductive Parted : List Char → List (List Char) → Prop where
  | done : Parted [] []
  | blank {character : Char} {text : List Char} {parts : List (List Char)}
      (skipped : isBlank character = true) (parted : Parted text parts) :
      Parted (character :: text) parts
  | word {word text : List Char} {parts : List (List Char)} (solid : Solid word)
      (ends : EndsWord text) (parted : Parted text parts) : Parted (word ++ text) (word :: parts)

variable {character : Char} {text word front rest : List Char} {parts : List (List Char)}

theorem ends_word_iff (text : List Char) : EndsWord text ↔ startsWord text = false := by
  cases text with
  | nil => simp [EndsWord, startsWord]
  | cons next text => simp [EndsWord, startsWord]

theorem solid_single (solid : isBlank character = false) : Solid [character] := by
  refine ⟨by simp, fun other member => ?_⟩
  rw [List.mem_singleton.mp member, solid]

theorem solid_longer (first : isBlank character = false) (solid : Solid word) :
    Solid (character :: word) := by
  refine ⟨by simp, fun other member => ?_⟩
  rcases List.mem_cons.mp member with rfl | further
  · exact first
  · exact solid.2 other further

/-- A run of solid characters does not end where a word starts. -/
theorem solid_not_ends (solid : Solid word) (rest : List Char) : ¬ EndsWord (word ++ rest) := by
  obtain ⟨nonempty, plain⟩ := solid
  cases word with
  | nil => contradiction
  | cons first word =>
      intro ends
      have blank := ends first (by simp)
      rw [plain first List.mem_cons_self] at blank
      contradiction

/-- A solid character joins the part that starts right after it. -/
theorem parted_joined (solid : isBlank character = false) (starts : startsWord text = true)
    (parted : Parted text parts) :
    ∃ first others, parts = first :: others ∧
      Parted (character :: text) ((character :: first) :: others) := by
  cases parted with
  | done => contradiction
  | blank skipped _ =>
      simp only [startsWord, skipped] at starts
      contradiction
  | word run ends parted => exact ⟨_, _, rfl, .word (solid_longer solid run) ends parted⟩

theorem words_parted (text : List Char) : Parted text (words text) := by
  induction text with
  | nil => exact .done
  | cons character text induction =>
      cases kind : isBlank character with
      | true =>
          rw [words_blank text kind]
          exact .blank kind induction
      | false =>
          cases starts : startsWord text with
          | false =>
              rw [words_lone text kind starts]
              exact .word (solid_single kind) ((ends_word_iff text).mpr starts) induction
          | true =>
              obtain ⟨first, others, same, joined⟩ := parted_joined kind starts induction
              simpa only [words, kind, starts, same, Bool.false_eq_true, ↓reduceIte] using joined

/-- A run that ends before the rest of the text is its first word. -/
theorem words_run (solid : Solid word) (ends : EndsWord text) :
    words (word ++ text) = word :: words text := by
  obtain ⟨nonempty, plain⟩ := solid
  induction word with
  | nil => contradiction
  | cons first word induction =>
      have kind : isBlank first = false := plain first List.mem_cons_self
      cases word with
      | nil => exact words_lone text kind ((ends_word_iff text).mp ends)
      | cons second word =>
          have further := induction (by simp) fun other member =>
            plain other (List.mem_cons_of_mem _ member)
          have starts : startsWord (second :: word ++ text) = true := by
            simp only [List.cons_append, startsWord, plain second (by simp), Bool.not_false]
          rw [List.cons_append, words, further, kind, starts]
          rfl

theorem words_of_parted (parted : Parted text parts) : words text = parts := by
  induction parted with
  | done => rfl
  | blank skipped _ induction => rw [words_blank _ skipped, induction]
  | word solid ends _ induction => rw [words_run solid ends, induction]

theorem run_of_parted (parted : Parted text parts) (member : word ∈ parts) :
    LongestRun text word := by
  induction parted with
  | done => contradiction
  | @blank character text parts skipped _ induction =>
      obtain ⟨front, back, rfl, solid, before, after⟩ := induction member
      refine ⟨character :: front, back, rfl, solid, ?_, after⟩
      intro last isLast
      cases front with
      | nil =>
          obtain rfl : character = last := by simpa using isLast
          exact skipped
      | cons first front => exact before last (by simpa using isLast)
  | @word first text parts solid ends _ induction =>
      rcases List.mem_cons.mp member with rfl | further
      · exact ⟨[], text, rfl, solid, by simp [EndsWord], ends⟩
      · obtain ⟨front, back, rfl, run, before, after⟩ := induction further
        refine ⟨first ++ front, back, by simp, run, ?_, after⟩
        -- A run right behind the first part would have no blank before it.
        have parted : front ≠ [] := by
          rintro rfl
          exact solid_not_ends run back ends
        intro last isLast
        refine before last ?_
        rwa [List.head?_reverse, List.getLast?_append_of_ne_nil _ parted, ← List.head?_reverse] at isLast

theorem words_of_starting (starts : startsWord text = true) :
    ∃ first others, words text = first :: others := by
  cases text with
  | nil => contradiction
  | cons character text =>
      have kind : isBlank character = false := by simpa [startsWord] using starts
      unfold words
      simp only [kind, Bool.false_eq_true, ↓reduceIte]
      split
      · exact ⟨_, _, rfl⟩
      · exact ⟨_, _, rfl⟩

/-- Where a blank stands before the rest of the text, no word goes on. -/
theorem words_append (before : EndsWord front.reverse) (rest : List Char) :
    words (front ++ rest) = words front ++ words rest := by
  induction front with
  | nil => rfl
  | cons first front induction =>
      cases front with
      | nil =>
          have skipped : isBlank first = true := before first (by simp)
          rw [List.singleton_append, words_blank rest skipped, words_blank [] skipped]
          rfl
      | cons second front =>
          have further := induction fun last isLast => before last (by simpa using isLast)
          have same : startsWord (second :: front ++ rest) = startsWord (second :: front) := rfl
          rw [List.cons_append, words, words, further, same]
          cases isBlank first with
          | true => rfl
          | false =>
              cases starts : startsWord (second :: front) with
              | false => rfl
              | true =>
                  obtain ⟨word, others, listed⟩ := words_of_starting starts
                  rw [listed]
                  rfl

theorem mem_words_iff (text word : List Char) : word ∈ words text ↔ LongestRun text word := by
  constructor
  · exact run_of_parted (words_parted text)
  · rintro ⟨front, back, rfl, solid, before, after⟩
    rw [words_append before, words_run solid after]
    simp

end DebugRecovery.Text
