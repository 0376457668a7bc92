import DebugRecovery.Text.Blank

/-!
Statements of a settings file. A statement assigns a value to a name; quotes
around the value keep blanks and line ends in it, and a number sign after a
blank starts a comment. A statement that cannot be read ends with its line, and
a byte order mark at the start of the file is no part of the first one.
-/

set_option autoImplicit false

namespace DebugRecovery.Settings

inductive Statement where
  | blank
  | assignment (name : String) (value : Option String)
  | unreadable
  deriving DecidableEq, Repr

namespace Statement

def isInlineBlank (character : Char) : Bool := Text.isBlank character && character != '\n'

def skipInline (text : List Char) : List Char := text.dropWhile isInlineBlank

/-- What follows the line at the start of a text. -/
def afterLine (text : List Char) : List Char := (text.dropWhile (· != '\n')).drop 1

/-- A part of a statement with the text after it; without it, the text it was looked for in. -/
abbrev Scan (Part : Type) := Except (List Char) (Part × List Char)

/-- The text inside of quotes and after them. The character after a backslash closes nothing. -/
def upToQuote (quote : Char) : List Char → Option (List Char × List Char)
  | [] => none
  | '\\' :: escaped :: rest =>
      (upToQuote quote rest).map fun parts => ('\\' :: escaped :: parts.1, parts.2)
  | character :: rest =>
      if character == quote then some ([], rest)
      else (upToQuote quote rest).map fun parts => (character :: parts.1, parts.2)

/-- Characters that a backslash gives a meaning of their own, between single quotes. -/
def singleEscape? (character : Char) : Option Char :=
  if character == '\\' || character == '\'' then some character else none

def doubleEscape? : Char → Option Char
  | '\\' => some '\\'
  | '\'' => some '\''
  | '"' => some '"'
  | 'a' => some '\x07'
  | 'b' => some '\x08'
  | 'f' => some '\x0c'
  | 'n' => some '\n'
  | 'r' => some '\r'
  | 't' => some '\t'
  | 'v' => some '\x0b'
  | _ => none

def unescape (meaning : Char → Option Char) : List Char → List Char
  | [] => []
  | '\\' :: character :: rest =>
      match meaning character with
      | some value => value :: unescape meaning rest
      | none => '\\' :: character :: unescape meaning rest
  | character :: rest => character :: unescape meaning rest

/-- The text up to the first number sign that has a blank before it. -/
def beforeComment (afterBlank : Bool) : List Char → List Char
  | [] => []
  | character :: rest =>
      if character == '#' && afterBlank then []
      else character :: beforeComment (Text.isBlank character) rest

def quotedValue (quote : Char) (meaning : Char → Option Char) (text : List Char) : Scan String :=
  match upToQuote quote (text.drop 1) with
  | none => .error text
  | some (inside, after) => .ok (String.ofList (unescape meaning inside), after)

/-- A value without quotes, which ends with its line or where a comment starts. -/
def plainValue (afterBlank : Bool) (text : List Char) : String :=
  Text.trimEnd (String.ofList (beforeComment afterBlank (text.takeWhile (· != '\n'))))

/-- The value after an equals sign, with or without blanks between them. -/
def value (text : List Char) : Scan String :=
  let body := skipInline text
  match body with
  | '\'' :: _ => quotedValue '\'' singleEscape? body
  | '"' :: _ => quotedValue '"' doubleEscape? body
  | _ =>
      .ok (plainValue (body.length < text.length) body, body.dropWhile (· != '\n'))

/-- The text after the word that may stand before an assignment. -/
def skipExport (text : List Char) : List Char :=
  match text with
  | 'e' :: 'x' :: 'p' :: 'o' :: 'r' :: 't' :: character :: rest =>
      if isInlineBlank character then skipInline rest else text
  | _ => text

def isNameCharacter (character : Char) : Bool :=
  character != '=' && character != '#' && !Text.isBlank character

/-- The admitted characters that a text starts with, at least one. -/
def nonemptyRun (admits : Char → Bool) (text : List Char) : Option (String × List Char) :=
  let run := text.takeWhile admits
  if run.isEmpty then none else some (String.ofList run, text.dropWhile admits)

/-- A comment has no name. -/
def name (text : List Char) : Scan (Option String) :=
  match text with
  | '#' :: _ => .ok (none, text)
  | '\'' :: inside =>
      match nonemptyRun (· != '\'') inside with
      | some (name, _ :: after) => .ok (some name, after)
      | _ => .error text
  | _ =>
      match nonemptyRun isNameCharacter text with
      | some (name, after) => .ok (some name, after)
      | none => .error text

def assigned (text : List Char) : Scan (Option String) :=
  match text with
  | '=' :: rest => (value rest).map fun parts => (some parts.1, parts.2)
  | _ => .ok (none, text)

def skipComment (text : List Char) : List Char :=
  match skipInline text with
  | '#' :: rest => rest.dropWhile (· != '\n')
  | _ => text

def lineEnd (text : List Char) : Scan Unit :=
  match skipInline text with
  | [] => .ok ((), [])
  | '\n' :: rest => .ok ((), rest)
  | _ => .error text

def assignmentOf (name value : Option String) : Statement :=
  match name with
  | none => .blank
  | some name => .assignment name value

/-- The statement of a text that starts with no blank. -/
def assignmentLine (text : List Char) : Except (List Char) (Statement × List Char) := do
  let (found, afterName) ← name (skipExport text)
  let (given, afterValue) ← assigned (skipInline afterName)
  let (_, rest) ← lineEnd (skipComment afterValue)
  .ok (assignmentOf found given, rest)

/-- The statement at the start of a text and the text after it. -/
def read (text : List Char) : Statement × List Char :=
  let body := text.dropWhile Text.isBlank
  if body.isEmpty then (.blank, [])
  else match assignmentLine body with
    | .ok result => result
    | .error place => (.unreadable, afterLine place)

/-- The statements of a text that starts on a line, each with the line on which it starts; blank
lines belong to the statement after them. -/
def readAll (line : Nat) (text : List Char) : List (Nat × Statement) :=
  if text.isEmpty then []
  else
    let result := read text
    if _shorter : result.2.length < text.length then
      (line, result.1) :: readAll (line + text.count '\n' - result.2.count '\n') result.2
    else [(line, result.1)]
termination_by text.length

def byteOrderMark : Char := '\ufeff'

/-- The statements of a file. -/
def ofFile (text : List Char) : List (Nat × Statement) :=
  match text with
  | [] => []
  | first :: rest => readAll 1 (if first == byteOrderMark then rest else text)

end Statement

end DebugRecovery.Settings
