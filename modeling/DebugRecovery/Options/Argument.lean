import DebugRecovery.Options.Flag
import DebugRecovery.Text.Digit

/-!
Arguments of the command line, each on its own. An argument is a plain text, a
flag or an unknown flag; flags end at the first separator. A long form may be
cut short where that fits one flag only, and letters may share one dash.
-/

set_option autoImplicit false

namespace DebugRecovery.Options

/-- A text glued to a flag. An equals sign between the two belongs to neither. -/
abbrev Glued := List Char

inductive Form where
  | short
  | long
  deriving DecidableEq, Repr

inductive Argument where
  | plain (text : String)
  | separator
  | flagged (form : Form) (flag : Flag) (glued : Option Glued)
  | unknown (text : String)
  deriving DecidableEq, Repr

/-- The argument after which no other one is a flag. -/
def separatorText : String := "--"

namespace Argument

/-- The text before the first equals sign, and the text after it if there is one. -/
def cutAtEquals (characters : List Char) : List Char × Option Glued :=
  let before := characters.takeWhile (· != '=')
  match characters.drop before.length with
  | [] => (before, none)
  | _ :: after => (before, some after)

/-- Whether the characters after a dash make it a number, which a line end may follow. -/
def isNegativeNumber (body : List Char) : Bool :=
  Text.isDecimalNumber body ||
    (body.getLast? == some '\n' && Text.isDecimalNumber body.dropLast)

/-- An argument that names no flag, though it starts with a dash. -/
def unmatched (text : String) (body : List Char) : Argument :=
  if isNegativeNumber body || body.contains ' ' then .plain text else .unknown text

def ofLong (text : String) (characters : List Char) : Except Misuse Argument :=
  let (before, glued) := cutAtEquals characters
  let form := String.ofList before
  match Flag.ofLong? form with
  | some flag => .ok (.flagged .long flag glued)
  | none =>
      match Flag.startingWith form with
      | [] => .ok (unmatched text (characters.drop 1))
      | [flag] => .ok (.flagged .long flag glued)
      | candidates => .error (.ambiguous text candidates)

def gluedTo : List Char → Option Glued
  | [] => none
  | '=' :: rest => some rest
  | characters => some characters

def ofShort (text : String) (letter : Char) (rest : List Char) : Argument :=
  match Flag.ofLetter? letter with
  | some flag => .flagged .short flag (gluedTo rest)
  | none => unmatched text (letter :: rest)

/-- An argument before the separator. -/
def ofText (text : String) : Except Misuse Argument :=
  match text.toList with
  | '-' :: '-' :: _ => ofLong text text.toList
  | '-' :: letter :: rest => .ok (ofShort text letter rest)
  | _ => .ok (.plain text)

/-- All arguments; after the separator each is plain. -/
def ofTexts : List String → Except Misuse (List Argument)
  | [] => .ok []
  | text :: rest =>
      if text = separatorText then .ok (.separator :: rest.map .plain)
      else do
        let first ← ofText text
        let others ← ofTexts rest
        .ok (first :: others)

end Argument

/-- What a flag does once its value is known. -/
inductive Use where
  | turn (switch : Switch)
  | set (parameter : Parameter) (value : String)
  deriving DecidableEq, Repr

/-- The flags that share one argument. The last one may be a parameter that takes its value from
the next argument. -/
structure Cluster where
  uses : List Use
  pending : Option Parameter := none
  deriving DecidableEq, Repr

namespace Cluster

def ofFlag : Flag → Cluster
  | .switch switch => ⟨[.turn switch], none⟩
  | .parameter parameter => ⟨[], some parameter⟩

def add (use : Use) (cluster : Cluster) : Cluster := { cluster with uses := use :: cluster.uses }

/-- The flags of an argument with one dash, from a flag on that a text is glued to. The text is
the value of a parameter; after a switch it goes on with the letter of another flag. -/
def ofLetters (flag : Flag) (characters : List Char) : Except Misuse Cluster :=
  let text := String.ofList characters
  match flag with
  | .parameter parameter => .ok ⟨[.set parameter text], none⟩
  | .switch switch =>
      match characters with
      | [] => .error (.strayValue switch text)
      | letter :: rest =>
          match Flag.ofLetter? letter with
          | none => .error (.strayValue switch text)
          | some next =>
              if rest.isEmpty then .ok ((ofFlag next).add (.turn switch))
              else (ofLetters next rest).map (add (.turn switch))

def ofGlued (form : Form) (flag : Flag) (glued : Glued) : Except Misuse Cluster :=
  match form, flag with
  | .short, _ => ofLetters flag glued
  | .long, .parameter parameter => .ok ⟨[.set parameter (String.ofList glued)], none⟩
  | .long, .switch switch => .error (.strayValue switch (String.ofList glued))

def ofArgument (form : Form) (flag : Flag) : Option Glued → Except Misuse Cluster
  | none => .ok (ofFlag flag)
  | some glued => ofGlued form flag glued

end Cluster

end DebugRecovery.Options
