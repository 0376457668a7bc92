import DebugRecovery.Json.Value
import DebugRecovery.Text.Numeral

/-!
Writing JSON text, two spaces for each level of nesting. Strings are written in
printable ASCII: every other character by its code, in two halves above U+FFFF.
The writer goes down into a value, and where that is nested deeper than it can go
it ends with what it has written until then.
-/

set_option autoImplicit false

namespace DebugRecovery.Json

def unitEscape (code : Nat) : List Char := '\\' :: 'u' :: Text.hexDigits 4 code

def codeUnits (code : Nat) : List Char :=
  if code < 0x10000 then unitEscape code
  else
    let above := code - 0x10000
    unitEscape (0xD800 + above / 0x400) ++ unitEscape (0xDC00 + above % 0x400)

def writtenCharacter (character : Char) : List Char :=
  match character with
  | '"' => ['\\', '"']
  | '\\' => ['\\', '\\']
  | '\n' => ['\\', 'n']
  | '\r' => ['\\', 'r']
  | '\t' => ['\\', 't']
  | '\x08' => ['\\', 'b']
  | '\x0c' => ['\\', 'f']
  | _ =>
      let code := character.toNat
      if 32 ≤ code && code ≤ 126 then [character] else codeUnits code

def writtenString (text : String) : List Char :=
  '"' :: (text.toList.flatMap writtenCharacter ++ ['"'])

def newLine (level : Nat) : List Char := '\n' :: List.replicate (2 * level) ' '

mutual

/-- The text of a value in pieces, each with the number of arrays and objects that it stands in. -/
def pieces (level : Nat) : Json → List (Nat × List Char)
  | .null => [(level, "null".toList)]
  | .boolean true => [(level, "true".toList)]
  | .boolean false => [(level, "false".toList)]
  | .integer value => [(level, (Text.decimal value).toList)]
  | .real written => [(level, written.toList)]
  | .string text => [(level, writtenString text)]
  | .array [] => [(level + 1, ['[', ']'])]
  | .array (item :: items) =>
      (level + 1, '[' :: newLine (level + 1)) ::
        (pieces (level + 1) item ++ itemPieces (level + 1) items ++
          [(level + 1, newLine level ++ [']'])])
  | .object [] => [(level + 1, ['{', '}'])]
  | .object ((name, value) :: members) =>
      (level + 1, '{' :: (newLine (level + 1) ++ writtenString name ++ [':', ' '])) ::
        (pieces (level + 1) value ++ memberPieces (level + 1) members ++
          [(level + 1, newLine level ++ ['}'])])

/-- The items after the first, each after a comma. -/
def itemPieces (level : Nat) : List Json → List (Nat × List Char)
  | [] => []
  | item :: items =>
      (level, ',' :: newLine level) :: (pieces level item ++ itemPieces level items)

/-- The members after the first, each after a comma. -/
def memberPieces (level : Nat) : List (String × Json) → List (Nat × List Char)
  | [] => []
  | (name, value) :: members =>
      (level, ',' :: (newLine level ++ writtenString name ++ [':', ' '])) ::
        (pieces level value ++ memberPieces level members)

end

def joined (pieces : List (Nat × List Char)) : List Char := pieces.flatMap Prod.snd

def characters (level : Nat) (value : Json) : List Char := joined (pieces level value)

def write (value : Json) : String := String.ofList (characters 0 value)

/-- The text up to where more arrays and objects stand in each other than the depth, and whether that
is all of it. -/
def writeWithin (depth : Option Nat) (value : Json) : String × Bool :=
  match depth with
  | none => (value.write, true)
  | some depth =>
      let all := pieces 0 value
      let reached := all.takeWhile fun piece => piece.1 ≤ depth
      (String.ofList (joined reached), reached.length == all.length)

end DebugRecovery.Json
