import DebugRecovery.Proofs.Each
import DebugRecovery.Signature
import Mathlib.Tactic.Common

/-!
# Where a signature matches

The words of a text spell the tokens of a signature, or the text is none. A
signature occurs where each of its tokens admits its byte, and one that is not
empty only inside the data. A search answers the least offset at which it
occurs, the end of the data among them: the least one from which it fits into
the data with each of its bytes where the data has that byte. What is appended
to the data makes new matches, but never one before a match that was there
already.
-/

set_option autoImplicit false

namespace DebugRecovery

/-- The words that write a token. -/
inductive Token.Spells : List Char → Token → Prop where
  | one : Spells ['?'] .any
  | two : Spells ['?', '?'] .any
  | byte (high low : Char) (upper lower : Nat) (first : Text.hexDigit? high = some upper)
      (second : Text.hexDigit? low = some lower) :
      Spells [high, low] (.byte (UInt8.ofNat (16 * upper + lower)))

theorem Token.of_word_some_iff (word : List Char) (token : Token) :
    Token.ofWord? word = some token ↔ Token.Spells word token := by
  constructor
  · intro read
    unfold Token.ofWord? at read
    split at read
    · obtain rfl := Option.some.inj read
      exact .one
    · obtain rfl := Option.some.inj read
      exact .two
    · rename_i high low _
      split at read
      · rename_i upper lower first second
        obtain rfl := Option.some.inj read
        exact .byte high low upper lower first second
      · contradiction
    · contradiction
  · intro spells
    cases spells with
    | one => rfl
    | two => rfl
    | byte high low upper lower first second =>
        have solid : high ≠ '?' := by
          rintro rfl
          contradiction
        unfold Token.ofWord?
        split
        · rename_i same
          exact absurd (List.cons.inj same).1 solid
        · rename_i same
          exact absurd (List.cons.inj same).1 solid
        · rename_i same
          obtain ⟨rfl, rest⟩ := List.cons.inj same
          obtain ⟨rfl, _⟩ := List.cons.inj rest
          simp only [first, second]
        · rename_i other
          exact absurd rfl (other high low)

namespace Signature

variable {tokens : Signature} {data : ByteArray} {offset : Nat}

/-- The words of the text spell the tokens, each its own. -/
def Spelled (text : String) (tokens : Signature) : Prop :=
  List.Forall₂ Token.Spells (Text.words text.toList) tokens

theorem of_text_some_iff (text : String) (tokens : Signature) :
    ofText? text = some tokens ↔ Spelled text tokens := by
  unfold ofText? Spelled
  simp only [option_each_iff, Token.of_word_some_iff]

/-- From the offset on, every token admits its byte. -/
def Occurs (tokens : Signature) (data : ByteArray) (offset : Nat) : Prop :=
  offset ≤ data.size ∧ ∀ index token, tokens[index]? = some token →
    ∃ byte, data[offset + index]? = some byte ∧ token.admits byte = true

/-- It occurs at the offset and nowhere before. -/
def First (tokens : Signature) (data : ByteArray) (offset : Nat) : Prop :=
  tokens.Occurs data offset ∧ ∀ before < offset, ¬ tokens.Occurs data before

theorem matches_at_iff (tokens : Signature) (data : ByteArray) (offset : Nat) :
    matchesAt data tokens offset = true ↔ ∀ index token, tokens[index]? = some token →
      ∃ byte, data[offset + index]? = some byte ∧ token.admits byte = true := by
  induction tokens generalizing offset with
  | nil => simp [matchesAt]
  | cons token tokens induction =>
      unfold matchesAt
      split
      · rename_i inside
        rw [Bool.and_eq_true, induction]
        constructor
        · rintro ⟨admitted, further⟩ index other at_index
          cases index with
          | zero =>
              obtain rfl := Option.some.inj at_index
              exact ⟨data[offset], getElem?_pos data offset inside, admitted⟩
          | succ index =>
              obtain ⟨byte, there, admits⟩ := further index other at_index
              exact ⟨byte, by rwa [Nat.add_right_comm] at there, admits⟩
        · intro all
          refine ⟨?_, fun index other at_index => ?_⟩
          · obtain ⟨byte, there, admits⟩ := all 0 token rfl
            obtain rfl := Option.some.inj ((getElem?_pos data offset inside).symm.trans there)
            exact admits
          · obtain ⟨byte, there, admits⟩ := all (index + 1) other at_index
            exact ⟨byte, by rwa [Nat.add_right_comm], admits⟩
      · rename_i outside
        simp only [Bool.false_eq_true, false_iff]
        intro all
        obtain ⟨byte, there, _⟩ := all 0 token rfl
        rw [getElem?_neg data (offset + 0) outside] at there
        contradiction

theorem occurs_iff (tokens : Signature) (data : ByteArray) (offset : Nat) :
    tokens.Occurs data offset ↔ offset ≤ data.size ∧ matchesAt data tokens offset = true := by
  rw [Occurs, matches_at_iff]

theorem matches_at_inside (nonempty : tokens ≠ []) (matched : matchesAt data tokens offset = true) :
    offset + tokens.length ≤ data.size := by
  induction tokens generalizing offset with
  | nil => contradiction
  | cons token tokens induction =>
      unfold matchesAt at matched
      split at matched
      · rename_i inside
        cases tokens with
        | nil =>
            simp only [List.length_cons, List.length_nil]
            omega
        | cons second rest =>
            have further := induction (by simp) (Bool.and_eq_true_iff.mp matched).2
            simp only [List.length_cons] at further ⊢
            omega
      · contradiction

theorem find_from_some_iff (tokens : Signature) (data : ByteArray) (start offset : Nat) :
    findFrom? tokens data start = some offset ↔
      start ≤ offset ∧ offset ≤ data.size ∧ matchesAt data tokens offset = true ∧
        ∀ before, start ≤ before → before < offset → matchesAt data tokens before = false := by
  fun_induction findFrom? tokens data start with
  | case1 start beyond =>
      simp only [reduceCtorEq, false_iff]
      rintro ⟨_, _, _⟩
      omega
  | case2 start inside here =>
      simp only [Option.some.injEq]
      constructor
      · rintro rfl
        exact ⟨Nat.le_refl _, by omega, here, fun _ _ _ => by omega⟩
      · rintro ⟨reached, _, _, least⟩
        by_contra differs
        have missed := least start (Nat.le_refl _) (by omega)
        rw [here] at missed
        contradiction
  | case3 start inside missed induction =>
      rw [induction]
      constructor
      · rintro ⟨reached, bounded, there, least⟩
        refine ⟨by omega, bounded, there, fun before reached' earlier => ?_⟩
        rcases Nat.eq_or_lt_of_le reached' with rfl | later
        · exact Bool.eq_false_iff.mpr missed
        · exact least before later earlier
      · rintro ⟨reached, bounded, there, least⟩
        have differs : start ≠ offset := by
          rintro rfl
          exact missed there
        exact ⟨by omega, bounded, there, fun before reached' => least before (by omega)⟩

theorem find_some_iff (tokens : Signature) (data : ByteArray) (offset : Nat) :
    tokens.find? data = some offset ↔
      offset ≤ data.size ∧ matchesAt data tokens offset = true ∧
        ∀ before < offset, matchesAt data tokens before = false := by
  unfold find?
  rw [of_expression_expression, Option.bind_some, find_from_some_iff]
  simp only [Nat.zero_le, true_and, forall_const]

theorem find_some_iff_first (tokens : Signature) (data : ByteArray) (offset : Nat) :
    tokens.find? data = some offset ↔ tokens.First data offset := by
  unfold First
  simp only [find_some_iff, occurs_iff, and_assoc]
  constructor
  · rintro ⟨bounded, matched, least⟩
    exact ⟨bounded, matched, fun before earlier there => by simp [least before earlier] at there⟩
  · rintro ⟨bounded, matched, least⟩
    refine ⟨bounded, matched, fun before earlier => ?_⟩
    exact Bool.eq_false_iff.mpr fun there => least before earlier ⟨by omega, there⟩

theorem find_none_iff (tokens : Signature) (data : ByteArray) :
    tokens.find? data = none ↔ ∀ offset, ¬ tokens.Occurs data offset := by
  constructor
  · intro missed offset
    -- The least offset at which the signature occurs would have been found.
    induction offset using Nat.strongRecOn with
    | ind offset nowhere =>
        intro occurs
        rw [(find_some_iff_first tokens data offset).mpr ⟨occurs, nowhere⟩] at missed
        contradiction
  · intro nowhere
    cases found : tokens.find? data with
    | none => rfl
    | some offset =>
        exact absurd ((find_some_iff_first tokens data offset).mp found).1 (nowhere offset)

/-- From the offset on the data has as many bytes as the signature, and has its bytes. -/
def Fits (tokens : Signature) (data : ByteArray) (offset : Nat) : Prop :=
  offset + tokens.length ≤ data.size ∧ ∀ (index : Nat) (value : UInt8),
    tokens[index]? = some (.byte value) → data[offset + index]? = some value

theorem occurs_iff_fits (tokens : Signature) (data : ByteArray) (offset : Nat) :
    tokens.Occurs data offset ↔ tokens.Fits data offset := by
  constructor
  · intro occurs
    obtain ⟨bounded, matched⟩ := (occurs_iff tokens data offset).mp occurs
    constructor
    · by_cases empty : tokens = []
      · simpa [empty] using bounded
      · exact matches_at_inside empty matched
    · intro index value at_index
      obtain ⟨found, there, admits⟩ := occurs.2 index (.byte value) at_index
      rw [there, (Token.admits_byte value found).mp admits]
  · rintro ⟨inside, bytes⟩
    refine ⟨by omega, fun index token at_index => ?_⟩
    have within : index < tokens.length := (List.getElem?_eq_some_iff.mp at_index).1
    have here : offset + index < data.size := by omega
    cases token with
    | any => exact ⟨data[offset + index], getElem?_pos data (offset + index) here, rfl⟩
    | byte value => exact ⟨value, bytes index value at_index, (Token.admits_byte value value).mpr rfl⟩

/-- It fits at the offset and nowhere before. -/
def FirstFit (tokens : Signature) (data : ByteArray) (offset : Nat) : Prop :=
  tokens.Fits data offset ∧ ∀ before < offset, ¬ tokens.Fits data before

theorem find_some_iff_first_fit (tokens : Signature) (data : ByteArray) (offset : Nat) :
    tokens.find? data = some offset ↔ tokens.FirstFit data offset := by
  rw [find_some_iff_first]
  unfold First FirstFit
  simp only [occurs_iff_fits]

theorem byte_fits_iff (value found : UInt8) : Fits [.byte value] ⟨#[found]⟩ 0 ↔ found = value := by
  constructor
  · intro fits
    exact Option.some.inj (fits.2 0 value rfl)
  · rintro rfl
    refine ⟨Nat.le_refl 1, fun index other at_index => ?_⟩
    obtain ⟨inside, same⟩ := List.getElem?_eq_some_iff.mp at_index
    obtain rfl : index = 0 := by simpa using inside
    obtain rfl := Token.byte.inj same
    rfl

/-- The text of a signature is read as its tokens, and a search for them answers the first offset
from which they fit into the data, or none when they fit nowhere. A byte fits itself alone, whatever
it could mean in an expression, and no tokens fit at once, in data without bytes as well. -/
theorem search_answers_first_fit (text : String) (tokens : Signature)
    (spelled : Spelled text tokens) :
    ofText? text = some tokens ∧
    (∀ data offset, tokens.find? data = some offset ↔ tokens.FirstFit data offset) ∧
    (∀ data, tokens.find? data = none ↔ ∀ offset, ¬ tokens.Fits data offset) ∧
    (∀ value, tokens = [.byte value] → ∀ found : UInt8,
      tokens.find? ⟨#[found]⟩ = some 0 ↔ found = value) ∧
    (tokens = [] → ∀ data, tokens.find? data = some 0) := by
  have found : ∀ data offset, tokens.find? data = some offset ↔ tokens.FirstFit data offset :=
    find_some_iff_first_fit tokens
  have atOnce : ∀ data, tokens.find? data = some 0 ↔ tokens.Fits data 0 := by
    intro data
    rw [found]
    exact ⟨And.left, fun fits => ⟨fits, fun _ earlier => absurd earlier (Nat.not_lt_zero _)⟩⟩
  refine ⟨(of_text_some_iff text tokens).mpr spelled, found, fun data => ?_, ?_, ?_⟩
  · rw [find_none_iff]
    simp only [occurs_iff_fits]
  · rintro value rfl byte
    rw [atOnce]
    exact byte_fits_iff value byte
  · rintro rfl data
    rw [atOnce]
    exact ⟨Nat.zero_le _, fun _ _ nowhere => by simp at nowhere⟩

/-- The first of two dots with a line feed two places after it, past a byte that is no dot. -/
theorem dot_and_line_feed_found :
    Spelled "2e ?\t0A" [.byte 0x2E, .any, .byte 0x0A] ∧
      ofText? "2e ?\t0A" = some [.byte 0x2E, .any, .byte 0x0A] ∧
      FirstFit [.byte 0x2E, .any, .byte 0x0A] ⟨#[0x41, 0x42, 0x0A, 0x2E, 0x2E, 0x0A, 0x0A]⟩ 3 := by
  have spelled : Spelled "2e ?\t0A" [.byte 0x2E, .any, .byte 0x0A] :=
    .cons (.byte '2' 'e' 2 14 rfl rfl) (.cons .one (.cons (.byte '0' 'A' 0 10 rfl rfl) .nil))
  have answers := search_answers_first_fit _ _ spelled
  have searched : find? [.byte 0x2E, .any, .byte 0x0A]
      ⟨#[0x41, 0x42, 0x0A, 0x2E, 0x2E, 0x0A, 0x0A]⟩ = some 3 := by
    decide +kernel
  exact ⟨spelled, answers.1, (answers.2.1 _ 3).mp searched⟩

variable {more : ByteArray}

theorem matches_at_append (inside : offset + tokens.length ≤ data.size) :
    matchesAt (data ++ more) tokens offset = matchesAt data tokens offset := by
  induction tokens generalizing offset with
  | nil => rfl
  | cons token tokens induction =>
      simp only [List.length_cons] at inside
      have here : offset < data.size := by omega
      have longer : offset < (data ++ more).size := by
        rw [ByteArray.size_append]
        omega
      have further : matchesAt (data ++ more) tokens (offset + 1) =
          matchesAt data tokens (offset + 1) := induction (by omega)
      simp only [matchesAt, here, longer, ↓reduceDIte, ByteArray.getElem_append_left here, further]

/-- The first match stays the first one: an earlier one would end before it does, inside the data. -/
theorem find_append (more : ByteArray) (found : tokens.find? data = some offset) :
    tokens.find? (data ++ more) = some offset := by
  obtain ⟨bounded, matched, least⟩ := (find_some_iff tokens data offset).mp found
  have fits : offset + tokens.length ≤ data.size := by
    by_cases empty : tokens = []
    · simpa [empty] using bounded
    · exact matches_at_inside empty matched
  refine (find_some_iff tokens (data ++ more) offset).mpr ⟨?_, ?_, fun before earlier => ?_⟩
  · rw [ByteArray.size_append]
    omega
  · rw [matches_at_append fits]
    exact matched
  · rw [matches_at_append (by omega)]
    exact least before earlier

end Signature

end DebugRecovery
