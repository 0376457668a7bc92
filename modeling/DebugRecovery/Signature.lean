import DebugRecovery.Text.Blank
import DebugRecovery.Text.Numeral

/-!
Byte signatures. A signature is a list of tokens, each a byte or a place that
any byte fills; its text writes a byte as two hexadecimal digits of either case,
a free place as one or two question marks, and separates tokens by blanks.
For a search a signature is compiled to a regular expression over bytes, in which
a dot stands for any byte and a backslash before a byte takes away what else it
could mean; the search answers the least offset at which the expression matches.
-/

set_option autoImplicit false

namespace DebugRecovery

inductive Token where
  | byte (value : UInt8)
  | any
  deriving DecidableEq, Repr

namespace Token

def ofWord? : List Char → Option Token
  | ['?'] => some .any
  | ['?', '?'] => some .any
  | [high, low] =>
      match Text.hexDigit? high, Text.hexDigit? low with
      | some upper, some lower => some (.byte (UInt8.ofNat (16 * upper + lower)))
      | _, _ => none
  | _ => none

def admits : Token → UInt8 → Bool
  | .byte value, found => value == found
  | .any, _ => true

theorem admits_byte (value found : UInt8) :
    (Token.byte value).admits found = true ↔ found = value := by
  exact ⟨fun same => (eq_of_beq same).symm, fun same => by simp [admits, same]⟩

def backslash : UInt8 := 0x5C

def dot : UInt8 := 0x2E

/-- The bytes that are written with a backslash, most of which would mean something else without. -/
def guarded : List UInt8 :=
  [0x09, 0x0A, 0x0B, 0x0C, 0x0D, 0x20, 0x23, 0x24, 0x26, 0x28, 0x29, 0x2A, 0x2B, 0x2D, dot, 0x3F,
    0x5B, backslash, 0x5D, 0x5E, 0x7B, 0x7C, 0x7D, 0x7E]

def expression : Token → List UInt8
  | .any => [dot]
  | .byte value => if guarded.contains value then [backslash, value] else [value]

end Token

abbrev Signature := List Token

namespace Signature

def ofText? (text : String) : Option Signature := (Text.words text.toList).mapM Token.ofWord?

/-- The regular expression of a signature, as it is written. -/
def expression (tokens : Signature) : List UInt8 := tokens.flatMap Token.expression

/-- The dollar, parentheses, star, plus, question mark, bracket, circumflex, brace and bar: with no
backslash before them they group, repeat, choose or anchor and stand for no byte. -/
def operators : List UInt8 := [0x24, 0x28, 0x29, 0x2A, 0x2B, 0x3F, 0x5B, 0x5E, 0x7B, 0x7C]

/-- Letters and digits behind a backslash name classes of bytes, controls and groups. -/
def isAlphanumeric (value : UInt8) : Bool :=
  (0x30 ≤ value && value ≤ 0x39) || (0x41 ≤ value && value ≤ 0x5A) ||
    (0x61 ≤ value && value ≤ 0x7A)

/-- What a regular expression of single bytes matches, one token for each byte. An expression with
anything else in it is not read. -/
def ofExpression? : List UInt8 → Option Signature
  | [] => some []
  | first :: rest =>
      if first = Token.backslash then
        match rest with
        | [] => none
        | value :: others =>
            if isAlphanumeric value then none
            else (ofExpression? others).map (Token.byte value :: ·)
      else if first = Token.dot then (ofExpression? rest).map (Token.any :: ·)
      else if operators.contains first then none
      else (ofExpression? rest).map (Token.byte first :: ·)

theorem guarded_not_alphanumeric : ∀ value ∈ Token.guarded, isAlphanumeric value = false := by
  have each : Token.guarded.all (fun value => !isAlphanumeric value) = true := by decide
  intro value member
  simpa using List.all_eq_true.mp each value member

theorem operator_guarded : ∀ value ∈ operators, value ∈ Token.guarded := by
  have each : operators.all (fun value => Token.guarded.contains value) = true := by decide
  intro value member
  exact List.contains_iff_mem.mp (List.all_eq_true.mp each value member)

theorem of_expression_token (token : Token) (rest : List UInt8) :
    ofExpression? (token.expression ++ rest) = (ofExpression? rest).map (token :: ·) := by
  cases token with
  | any =>
      have differs : Token.dot ≠ Token.backslash := by decide
      rw [Token.expression, List.singleton_append, ofExpression?.eq_def]
      simp only [differs, ↓reduceIte]
  | byte value =>
      rw [Token.expression]
      by_cases guard : value ∈ Token.guarded
      · have plain := guarded_not_alphanumeric value guard
        simp [guard, ofExpression?, plain]
      · have noBackslash : value ≠ Token.backslash := by
          rintro rfl
          exact guard (by decide)
        have noDot : value ≠ Token.dot := by
          rintro rfl
          exact guard (by decide)
        have noOperator : value ∉ operators := fun member => guard (operator_guarded value member)
        have written : Token.guarded.contains value = false := by simpa using guard
        rw [written, if_neg Bool.false_ne_true, List.singleton_append, ofExpression?.eq_def]
        simp [noBackslash, noDot, noOperator]

/-- The expression of a signature matches what the tokens admit. -/
theorem of_expression_expression (tokens : Signature) :
    ofExpression? tokens.expression = some tokens := by
  induction tokens with
  | nil => rfl
  | cons token tokens induction =>
      unfold expression at induction ⊢
      rw [List.flatMap_cons, of_expression_token, induction]
      rfl

/-- Whether every token admits the byte at its place from `offset` on. -/
def matchesAt (data : ByteArray) : Signature → Nat → Bool
  | [], _ => true
  | token :: tokens, offset =>
      if inside : offset < data.size then
        token.admits data[offset] && matchesAt data tokens (offset + 1)
      else false

def findFrom? (tokens : Signature) (data : ByteArray) (offset : Nat) : Option Nat :=
  if data.size < offset then none
  else if matchesAt data tokens offset then some offset
  else findFrom? tokens data (offset + 1)
termination_by data.size + 1 - offset

/-- The least offset at which the expression of the signature matches. -/
def find? (tokens : Signature) (data : ByteArray) : Option Nat :=
  (ofExpression? tokens.expression).bind fun places => findFrom? places data 0

end Signature

end DebugRecovery
