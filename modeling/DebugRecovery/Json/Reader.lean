import DebugRecovery.Association
import DebugRecovery.Json.Value
import DebugRecovery.Text.Numeral

/-!
Reading JSON text. Besides the values of the standard, the numbers NaN and
Infinity are read. The first mistake is reported with its place: line and column
count from one, characters from zero. A reader can have limits, and then it also
stops where an integer has too many digits or a value is nested too deep.
-/

set_option autoImplicit false

namespace DebugRecovery.Json

inductive Mistake where
  | byteOrderMark
  | value
  | extraData
  | comma
  | colon
  | name
  | unterminated
  | control
  | escape
  | codeEscape
  | overlong (limit digits : Nat)
  | tooDeep (container : String)
  deriving DecidableEq, Repr

/-- The limits of a reader; without a number there is no limit. -/
structure Limits where
  digits : Option Nat := none
  depth : Option Nat := none
  deriving DecidableEq, Repr

/-- The limits in a container, in which nothing can be when the depth is used up. -/
def Limits.inner? (limits : Limits) : Option Limits :=
  match limits.depth with
  | none => some limits
  | some 0 => none
  | some (depth + 1) => some { limits with depth := some depth }

def Mistake.text : Mistake → String
  | .byteOrderMark => "Unexpected UTF-8 BOM (decode using utf-8-sig)"
  | .value => "Expecting value"
  | .extraData => "Extra data"
  | .comma => "Expecting ',' delimiter"
  | .colon => "Expecting ':' delimiter"
  | .name => "Expecting property name enclosed in double quotes"
  | .unterminated => "Unterminated string starting at"
  | .control => "Invalid control character at"
  | .escape => "Invalid \\escape"
  | .codeEscape => "Invalid \\uXXXX escape"
  | .overlong limit digits =>
      s!"Exceeds the limit ({limit} digits) for integer string conversion: " ++
        s!"value has {digits} digits; use sys.set_int_max_str_digits() to increase the limit"
  | .tooDeep container => s!"decoding a JSON {container} from a unicode string"

/-- A mistake and the number of characters before it. -/
structure Misreading where
  mistake : Mistake
  position : Nat
  deriving DecidableEq, Repr

/-- What is left to read and the number of characters before it. -/
structure Cursor where
  rest : List Char
  position : Nat

def Cursor.take (cursor : Cursor) (count : Nat) : Cursor :=
  ⟨cursor.rest.drop count, cursor.position + count⟩

def Cursor.misread {Value : Type} (cursor : Cursor) (mistake : Mistake) :
    Except Misreading Value := .error ⟨mistake, cursor.position⟩

def isSpace (character : Char) : Bool :=
  character == ' ' || character == '\t' || character == '\n' || character == '\r'

def Cursor.skipSpaces (cursor : Cursor) : Cursor :=
  cursor.take (cursor.rest.takeWhile isSpace).length

def plainEscape? : Char → Option Char
  | '"' => some '"'
  | '\\' => some '\\'
  | '/' => some '/'
  | 'b' => some '\x08'
  | 'f' => some '\x0c'
  | 'n' => some '\n'
  | 'r' => some '\r'
  | 't' => some '\t'
  | _ => none

def fourDigits? (first second third fourth : Char) : Option Nat := do
  let high ← Text.hexDigit? first
  let upper ← Text.hexDigit? second
  let lower ← Text.hexDigit? third
  let low ← Text.hexDigit? fourth
  some (((high * 16 + upper) * 16 + lower) * 16 + low)

def isHighHalf (code : Nat) : Bool := 0xD800 ≤ code && code ≤ 0xDBFF

def isLowHalf (code : Nat) : Bool := 0xDC00 ≤ code && code ≤ 0xDFFF

/-- A half of a pair that stands alone has no character of its own. -/
def codeCharacter (code : Nat) : Char :=
  if 0xD800 ≤ code && code ≤ 0xDFFF then '\uFFFD' else Char.ofNat code

def joinHalves (high low : Nat) : Char := Char.ofNat (0x10000 + (high - 0xD800) * 0x400 + (low - 0xDC00))

/-- The string after its opening quote, which stands at `start`; `done` holds the characters read
so far, the last one first. A code escape has to have a character after its four digits. -/
def scanString (start : Nat) (done : List Char) : List Char → Nat →
    Except Misreading (String × Cursor)
  | [], _ => .error ⟨.unterminated, start⟩
  | '"' :: rest, position => .ok (String.ofList done.reverse, ⟨rest, position + 1⟩)
  | ['\\'], _ => .error ⟨.unterminated, start⟩
  | '\\' :: 'u' :: a :: b :: c :: d :: '\\' :: 'u' :: e :: f :: g :: h :: next :: rest, position =>
      match fourDigits? a b c d with
      | none => .error ⟨.codeEscape, position + 1⟩
      | some high =>
          if isHighHalf high then
            match fourDigits? e f g h with
            | none => .error ⟨.codeEscape, position + 7⟩
            | some low =>
                if isLowHalf low then
                  scanString start (joinHalves high low :: done) (next :: rest) (position + 12)
                else
                  scanString start (codeCharacter high :: done)
                    ('\\' :: 'u' :: e :: f :: g :: h :: next :: rest) (position + 6)
          else
            scanString start (codeCharacter high :: done)
              ('\\' :: 'u' :: e :: f :: g :: h :: next :: rest) (position + 6)
  | '\\' :: 'u' :: a :: b :: c :: d :: next :: rest, position =>
      match fourDigits? a b c d with
      | none => .error ⟨.codeEscape, position + 1⟩
      | some code => scanString start (codeCharacter code :: done) (next :: rest) (position + 6)
  | '\\' :: letter :: rest, position =>
      if letter == 'u' then .error ⟨.codeEscape, position + 1⟩
      else match plainEscape? letter with
        | none => .error ⟨.escape, position⟩
        | some character => scanString start (character :: done) rest (position + 2)
  | character :: rest, position =>
      if character.toNat < 32 then .error ⟨.control, position⟩
      else scanString start (character :: done) rest (position + 1)

def isDigit (character : Char) : Bool := (Text.digit? character).isSome

def numberOf (digits : List Char) : Nat :=
  digits.foldl (fun value digit => value * 10 + (Text.digit? digit).getD 0) 0

/-- The digits before the point: a lone zero, or digits that start with another one. -/
def wholePart? : List Char → Option (List Char)
  | '0' :: _ => some ['0']
  | rest => match rest.takeWhile isDigit with
    | [] => none
    | digits => some digits

/-- A point and the digits after it, of which there is at least one. -/
def fractionPart : List Char → List Char
  | '.' :: rest => match rest.takeWhile isDigit with
    | [] => []
    | digits => '.' :: digits
  | _ => []

def exponentDigits (mark : List Char) (rest : List Char) : List Char :=
  match rest.takeWhile isDigit with
  | [] => []
  | digits => mark ++ digits

/-- A letter e, a sign or none, and at least one digit. -/
def exponentPart : List Char → List Char
  | letter :: rest =>
      if letter == 'e' || letter == 'E' then
        match rest with
        | '+' :: after => exponentDigits [letter, '+'] after
        | '-' :: after => exponentDigits [letter, '-'] after
        | _ => exponentDigits [letter] rest
      else []
  | [] => []

/-- The limit that an integer with so many digits goes beyond, if there is one. -/
def Limits.exceeded? (limits : Limits) (digits : Nat) : Option Nat :=
  limits.digits.filter (· < digits)

def scanNumber (limits : Limits) (cursor : Cursor) : Except Misreading (Json × Cursor) :=
  let sign := match cursor.rest with
    | '-' :: _ => ['-']
    | _ => []
  let body := cursor.rest.drop sign.length
  match wholePart? body with
  | none => cursor.misread .value
  | some whole =>
      let fraction := fractionPart (body.drop whole.length)
      let exponent := exponentPart (body.drop (whole.length + fraction.length))
      let after := cursor.take (sign.length + whole.length + fraction.length + exponent.length)
      if fraction.isEmpty && exponent.isEmpty then
        match limits.exceeded? whole.length with
        | some limit => cursor.misread (.overlong limit whole.length)
        | none =>
            let value : Int := numberOf whole
            .ok (.integer (if sign.isEmpty then value else -value), after)
      else .ok (.real (String.ofList (sign ++ whole ++ fraction ++ exponent)), after)

def literals : List (List Char × Json) :=
  [("null".toList, .null), ("true".toList, .boolean true), ("false".toList, .boolean false),
    ("NaN".toList, .real "NaN"), ("Infinity".toList, .real "Infinity"),
    ("-Infinity".toList, .real "-Infinity")]

def literal? (cursor : Cursor) : Option (Json × Cursor) :=
  match literals.find? fun literal => literal.1.isPrefixOf cursor.rest with
  | some (word, value) => some (value, cursor.take word.length)
  | none => none

mutual

/-- The value at the cursor. Every value and every member takes one step off `fuel`, which makes two
for a bracket and one for a comma: twice the length of the text and one more is always enough. -/
def scanValue (limits : Limits) : Nat → Cursor → Except Misreading (Json × Cursor)
  | 0, cursor => cursor.misread .value
  | fuel + 1, cursor =>
      match cursor.rest with
      | '"' :: rest => do
          let (text, after) ← scanString cursor.position [] rest (cursor.position + 1)
          .ok (.string text, after)
      | '{' :: _ =>
          match limits.inner? with
          | none => cursor.misread (.tooDeep "object")
          | some limits =>
              let inner := (cursor.take 1).skipSpaces
              match inner.rest with
              | '}' :: _ => .ok (.object [], inner.take 1)
              | _ => do
                  let (members, after) ← scanMembers limits fuel [] inner
                  .ok (.object members, after)
      | '[' :: _ =>
          match limits.inner? with
          | none => cursor.misread (.tooDeep "array")
          | some limits =>
              let inner := (cursor.take 1).skipSpaces
              match inner.rest with
              | ']' :: _ => .ok (.array [], inner.take 1)
              | _ => do
                  let (items, after) ← scanItems limits fuel inner
                  .ok (.array items, after)
      | _ =>
          match literal? cursor with
          | some found => .ok found
          | none => scanNumber limits cursor

/-- The members from the cursor on, up to the closing brace. -/
def scanMembers (limits : Limits) : Nat → List (String × Json) → Cursor →
    Except Misreading (List (String × Json) × Cursor)
  | 0, _, cursor => cursor.misread .name
  | fuel + 1, done, cursor =>
      match cursor.rest with
      | '"' :: rest => do
          let (name, afterName) ← scanString cursor.position [] rest (cursor.position + 1)
          let colon := afterName.skipSpaces
          match colon.rest with
          | ':' :: _ => do
              let (value, afterValue) ← scanValue limits fuel (colon.take 1).skipSpaces
              let members := Association.put name value done
              let next := afterValue.skipSpaces
              match next.rest with
              | '}' :: _ => .ok (members, next.take 1)
              | ',' :: _ => scanMembers limits fuel members (next.take 1).skipSpaces
              | _ => next.misread .comma
          | _ => colon.misread .colon
      | _ => cursor.misread .name

/-- The items from the cursor on, up to the closing bracket. -/
def scanItems (limits : Limits) : Nat → Cursor → Except Misreading (List Json × Cursor)
  | 0, cursor => cursor.misread .value
  | fuel + 1, cursor => do
      let (item, afterItem) ← scanValue limits fuel cursor
      let next := afterItem.skipSpaces
      match next.rest with
      | ']' :: _ => .ok ([item], next.take 1)
      | ',' :: _ => do
          let (items, after) ← scanItems limits fuel (next.take 1).skipSpaces
          .ok (item :: items, after)
      | _ => next.misread .comma

end

def byteOrderMark : Char := '\uFEFF'

def readCharacters (limits : Limits) (characters : List Char) : Except Misreading Json := do
  let start : Cursor := ⟨characters, 0⟩
  if characters.head? == some byteOrderMark then start.misread .byteOrderMark
  let (value, after) ← scanValue limits (2 * characters.length + 1) start.skipSpaces
  let last := after.skipSpaces
  if last.rest.isEmpty then .ok value else last.misread .extraData

def read (text : String) (limits : Limits := {}) : Except Misreading Json :=
  readCharacters limits text.toList

/-- The place of a misreading in the text it was found in. -/
def Misreading.message (misreading : Misreading) (text : String) : String :=
  let before := text.toList.take misreading.position
  let line := before.count '\n' + 1
  let column := (before.reverse.takeWhile (· != '\n')).length + 1
  s!"{misreading.mistake.text}: line {line} column {column} (char {misreading.position})"

end DebugRecovery.Json
