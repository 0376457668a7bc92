/-!
Splitting a line into words as a shell does. Blanks separate words; a backslash
or quotes take their special meaning from a character. Between double quotes a
backslash does so only before a double quote and before a backslash.
-/

set_option autoImplicit false

namespace DebugRecovery.Text.ShellWords

inductive Fault where
  | openQuote
  | loneBackslash
  deriving DecidableEq, Repr

def Fault.message : Fault → String
  | .openQuote => "No closing quotation"
  | .loneBackslash => "No escaped character"

inductive Quoting where
  | unquoted
  | single
  | double
  deriving DecidableEq, Repr

/-- The quoting after a quote character; `none` when it stands for itself. -/
def Quoting.turn? : Quoting → Char → Option Quoting
  | .unquoted, '\'' => some .single
  | .unquoted, '"' => some .double
  | .single, '\'' => some .unquoted
  | .double, '"' => some .unquoted
  | _, _ => none

def isSeparator (character : Char) : Bool :=
  character == ' ' || character == '\t' || character == '\r' || character == '\n'

/-- What a backslash and the character after it stand for. -/
def escaped (quoting : Quoting) (character : Char) : List Char :=
  if quoting == .double && character != '"' && character != '\\' then ['\\', character]
  else [character]

/-- A word in progress with more characters at its end; `none` is no word yet. -/
def grown (word : Option (List Char)) (more : List Char) : Option (List Char) :=
  some (word.getD [] ++ more)

def finished (word : Option (List Char)) (others : List (List Char)) : List (List Char) :=
  match word with
  | none => others
  | some word => word :: others

def splitFrom (quoting : Quoting) (word : Option (List Char)) :
    List Char → Except Fault (List (List Char))
  | [] => if quoting = .unquoted then .ok (finished word []) else .error .openQuote
  | ['\\'] => if quoting = .single then .error .openQuote else .error .loneBackslash
  | '\\' :: character :: rest =>
      if quoting = .single then
        match quoting.turn? character with
        | some next => splitFrom next (grown word ['\\']) rest
        | none => splitFrom quoting (grown word ['\\', character]) rest
      else splitFrom quoting (grown word (escaped quoting character)) rest
  | character :: rest =>
      match quoting.turn? character with
      | some next => splitFrom next (grown word []) rest
      | none =>
          if quoting = .unquoted && isSeparator character then
            (splitFrom .unquoted none rest).map (finished word)
          else splitFrom quoting (grown word [character]) rest

def split (line : String) : Except Fault (List String) :=
  (splitFrom .unquoted none line.toList).map fun words => words.map String.ofList

end DebugRecovery.Text.ShellWords
