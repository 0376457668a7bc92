import DebugRecovery.Files.Path
import DebugRecovery.Options.Attachment

/-!
The command line as a whole. Operands and flags may alternate; a separator that
stands beside an operand is dropped. What a flag lacks is reported before
anything that the argument's other flags do, missing operands before arguments
that nothing takes.
-/

set_option autoImplicit false

namespace DebugRecovery

/-- A place for a value that is given on the command line. -/
inductive Options.Slot (Value : Type) where
  | vacant
  | filled (value : Value)
  deriving DecidableEq, Repr

namespace Options.Slot

def value? {Value : Type} : Slot Value → Option Value
  | .vacant => none
  | .filled value => some value

/-- A separator is no value. -/
def ofText {Value : Type} (value : String → Value) (text : String) : Slot Value :=
  if text == separatorText then .vacant else .filled (value text)

end Options.Slot

/-- What a complete command line says. -/
structure Options where
  binary : Options.Slot Path
  source : Options.Slot Path
  symbols : Option (Options.Slot Path)
  output : Option (Options.Slot Path)
  coptions : List (Options.Slot String)
  verbose : Bool
  deriving DecidableEq, Repr

namespace Options

/-- Why a command line asks for no run. -/
inductive Refusal where
  | help
  | misuse (misuse : Misuse)
  deriving DecidableEq, Repr

/-- What the arguments read so far say; extra arguments are those that nothing takes. -/
structure Reading where
  operands : List (Slot Path) := []
  symbols : Option (Slot Path) := none
  output : Option (Slot Path) := none
  coptions : List (Slot String) := []
  verbose : Bool := false
  extras : List String := []
  deriving DecidableEq, Repr

/-- What stands right before an argument: an operand, a separator that leads to one, or anything
else. -/
inductive Previous where
  | operand
  | opener
  | other
  deriving DecidableEq, Repr

def operandCount : Nat := 2

namespace Reading

def isFull (reading : Reading) : Bool := operandCount ≤ reading.operands.length

def addExtra (text : String) (reading : Reading) : Reading :=
  { reading with extras := reading.extras ++ [text] }

/-- The slot of an operand. After a separator that leads to it, any text is a value. -/
def slot (previous : Previous) (text : String) : Slot Path :=
  if previous == .opener then .filled (.ofText text) else .ofText .ofText text

def addOperand (previous : Previous) (text : String) (reading : Reading) : Reading :=
  { reading with operands := reading.operands ++ [slot previous text] }

def use (reading : Reading) : Use → Except Refusal Reading
  | .turn .help => .error .help
  | .turn .verbose => .ok { reading with verbose := true }
  | .set .symbols text => .ok { reading with symbols := some (.ofText .ofText text) }
  | .set .output text => .ok { reading with output := some (.ofText .ofText text) }
  | .set .coption text =>
      .ok { reading with coptions := reading.coptions ++ [.ofText id text] }

def useAll (uses : List Use) (reading : Reading) : Except Refusal Reading :=
  uses.foldlM use reading

/-- Whether a separator before these arguments leads to an operand. -/
def leads (reading : Reading) : List Argument → Bool
  | .plain _ :: _ => !reading.isFull
  | _ => false

/-- The options, if both operands are there and every argument was taken. -/
def complete (reading : Reading) : Except Refusal Options :=
  match reading.operands with
  | [] => .error (.misuse (.missing [.binary, .source]))
  | [_] => .error (.misuse (.missing [.source]))
  | binary :: source :: _ =>
      if reading.extras.isEmpty then
        .ok { binary, source
              symbols := reading.symbols
              output := reading.output
              coptions := reading.coptions
              verbose := reading.verbose }
      else .error (.misuse (.unrecognized reading.extras))

end Reading

/-- Reads the arguments from the first to the last. -/
def Reading.readAll (previous : Previous) (reading : Reading) :
    List Argument → Except Refusal Reading
  | [] => .ok reading
  | .plain text :: rest =>
      if reading.isFull then readAll .other (reading.addExtra text) rest
      else readAll .operand (reading.addOperand previous text) rest
  | .separator :: rest =>
      if previous == .operand then readAll .other reading rest
      else if reading.leads rest then readAll .opener reading rest
      else readAll .other (reading.addExtra separatorText) rest
  | .unknown text :: rest => readAll .other (reading.addExtra text) rest
  | .flagged form flag glued :: rest =>
      match Cluster.ofArgument form flag glued, rest with
      | .error misuse, _ => .error (.misuse misuse)
      | .ok ⟨uses, none⟩, rest => do readAll .other (← reading.useAll uses) rest
      | .ok ⟨uses, some parameter⟩, .plain text :: rest => do
          readAll .other (← reading.useAll (uses ++ [.set parameter text])) rest
      | .ok ⟨_, some parameter⟩, _ => .error (.misuse (.noValue parameter))

/-- What the tokens of a command line say. -/
def ofTokens (tokens : List String) : Except Refusal Options := do
  let arguments ← (Argument.ofTexts (attach tokens)).mapError .misuse
  let reading ← Reading.readAll .other {} arguments
  reading.complete

end Options

end DebugRecovery
