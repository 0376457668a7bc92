import DebugRecovery.Text.Quoted

/-!
The flags of the command line and what is wrong with a misused one. A flag has a
short form, a dash and a letter, and a long form, two dashes and a word.
-/

set_option autoImplicit false

namespace DebugRecovery.Options

/-- A flag that stands alone. -/
inductive Switch where
  | help
  | verbose
  deriving DecidableEq, Repr

/-- A flag that takes a value. -/
inductive Parameter where
  | symbols
  | output
  | coption
  deriving DecidableEq, Repr

inductive Flag where
  | switch (switch : Switch)
  | parameter (parameter : Parameter)
  deriving DecidableEq, Repr

namespace Flag

/-- All flags, in the order in which messages list them. -/
def all : List Flag :=
  [.switch .help, .parameter .symbols, .parameter .output, .parameter .coption, .switch .verbose]

def letter : Flag → Char
  | .switch .help => 'h'
  | .switch .verbose => 'v'
  | .parameter .symbols => 'c'
  | .parameter .output => 'o'
  | .parameter .coption => 'd'

def long : Flag → String
  | .switch .help => "--help"
  | .switch .verbose => "--verbose"
  | .parameter .symbols => "--config"
  | .parameter .output => "--output"
  | .parameter .coption => "--coptions"

def short (flag : Flag) : String := String.ofList ['-', flag.letter]

def ofLetter? (letter : Char) : Option Flag := all.find? fun flag => flag.letter == letter

def ofLong? (text : String) : Option Flag := all.find? fun flag => flag.long == text

/-- The flags whose long form starts with a text. -/
def startingWith (text : String) : List Flag :=
  all.filter fun flag => text.toList.isPrefixOf flag.long.toList

theorem of_long_long (flag : Flag) : ofLong? flag.long = some flag := by
  rcases flag with switch | parameter
  · cases switch <;> decide
  · cases parameter <;> decide

/-- Both forms, as messages name a flag. -/
def label (flag : Flag) : String := s!"{flag.short}/{flag.long}"

end Flag

/-- The two paths that stand without a flag. -/
inductive Operand where
  | binary
  | source
  deriving DecidableEq, Repr

def Operand.label : Operand → String
  | .binary => "BINARY"
  | .source => "SOURCE"

inductive Misuse where
  | ambiguous (argument : String) (candidates : List Flag)
  | noValue (parameter : Parameter)
  | strayValue (switch : Switch) (value : String)
  | missing (operands : List Operand)
  | unrecognized (arguments : List String)
  deriving DecidableEq, Repr

def Misuse.message : Misuse → String
  | .ambiguous argument candidates =>
      let forms := ", ".intercalate (candidates.map Flag.long)
      s!"ambiguous option: {argument} could match {forms}"
  | .noValue parameter =>
      let label := (Flag.parameter parameter).label
      s!"argument {label}: expected one argument"
  | .strayValue switch value =>
      let label := (Flag.switch switch).label
      s!"argument {label}: ignored explicit argument {Text.quoted value}"
  | .missing operands =>
      let labels := ", ".intercalate (operands.map Operand.label)
      s!"the following arguments are required: {labels}"
  | .unrecognized arguments =>
      let texts := " ".intercalate arguments
      s!"unrecognized arguments: {texts}"

end DebugRecovery.Options
