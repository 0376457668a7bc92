import DebugRecovery.Text.Numeral
import DebugRecovery.Text.Printable

/-!
Quoted text for messages. Text stands between single quotes, or between double
quotes when it holds a single and no double quote. The quote in use and the
backslash take a backslash; line feed, carriage return and tab have letters;
every other character that does not print is written by its code point.
-/

set_option autoImplicit false

namespace DebugRecovery.Text

def quoteFor (hasSingle hasDouble : Bool) : Char :=
  if hasSingle && !hasDouble then '"' else '\''

def codeEscape (code : Nat) : List Char :=
  if code ≤ 0xFF then ['\\', 'x'] ++ hexDigits 2 code
  else if code ≤ 0xFFFF then ['\\', 'u'] ++ hexDigits 4 code
  else ['\\', 'U'] ++ hexDigits 8 code

def quotedCharacter (quote character : Char) : List Char :=
  if character == quote || character == '\\' then ['\\', character]
  else if character == '\n' then ['\\', 'n']
  else if character == '\r' then ['\\', 'r']
  else if character == '\t' then ['\\', 't']
  else if isPrintable character then [character]
  else codeEscape character.toNat

def quoted (text : String) : String :=
  let characters := text.toList
  let quote := quoteFor (characters.contains '\'') (characters.contains '"')
  String.ofList (quote :: (characters.flatMap (quotedCharacter quote) ++ [quote]))

def quotedByte (quote : Char) (byte : UInt8) : List Char :=
  let character := Char.ofNat byte.toNat
  if byte.toNat < 0x80 then quotedCharacter quote character else codeEscape byte.toNat

/-- Bytes are quoted like text, a byte above the ASCII range by its code, after the letter b. -/
def quotedBytes (bytes : List UInt8) : String :=
  let quote := quoteFor (bytes.contains 39) (bytes.contains 34)
  String.ofList ('b' :: quote :: (bytes.flatMap (quotedByte quote) ++ [quote]))

def quotedList (texts : List String) : String :=
  "[" ++ ", ".intercalate (texts.map quoted) ++ "]"

end DebugRecovery.Text
