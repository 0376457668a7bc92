import DebugRecovery.Text.Blank
import DebugRecovery.Text.Quoted

/-!
The causes of failure and their wording. A symbol that cannot be located costs a
warning; a declaration without a counterpart and trouble with the source, the
image or the output end a run.
-/

set_option autoImplicit false

namespace DebugRecovery

/-- Why one symbol could not be located. A signature read outside of any symbol has an empty name. -/
inductive LookupFailure where
  | malformed (pattern name : String)
  | absent (name : String)
  | unmapped (name pattern : String)
  deriving DecidableEq, Repr

def LookupFailure.message : LookupFailure → String
  | .malformed pattern name =>
      let place := if name.isEmpty then "" else " (" ++ Text.quoted name ++ ")"
      s!"Bad pattern detected{place}! {pattern}"
  | .absent name => s!"Pattern {Text.quoted name} was not found!"
  | .unmapped name pattern =>
      s!"{Text.quoted name} ({Text.quoted pattern}) could not be translated. " ++
        "Please check relative and rip_relative!"

/-- Why a declaration has no counterpart in the debug information. -/
inductive StructuralFailure where
  | functionName (location : String)
  | function (location : String)
  | arguments (subject : String)
  | result (subject : String)
  | convention (subject : String)
  | name (kind subject : String)
  | unknownType (subject : String)
  | struct (subject : String)
  | structSize (subject : String)
  | offset (detail : String)
  | type (detail : String)
  | field (detail : String)
  deriving DecidableEq, Repr

def StructuralFailure.message : StructuralFailure → String
  | .functionName location => s!"Invalid function name: {location}"
  | .function location => s!"Invalid function: {location}"
  | .arguments subject => s!"Invalid function args: {subject}"
  | .result subject => s!"Invalid return type for {subject}"
  | .convention subject => s!"Invalid calling convention for {subject}"
  | .name kind subject => s!"Invalid {kind} name for {subject}"
  | .unknownType subject => s!"Unknown type: {subject}"
  | .struct subject => Text.trimEnd s!"Invalid struct {subject}"
  | .structSize subject => Text.trimEnd s!"Invalid struct size {subject}"
  | .offset detail => Text.trimEnd s!"Invalid field offset {detail}"
  | .type detail => s!"Error during type translation: {detail}"
  | .field detail => s!"Invalid struct field: {detail}"

inductive Failure where
  | configuration (detail : String)
  | lookup (cause : LookupFailure)
  | structural (cause : StructuralFailure)
  | source (detail : String)
  | image (detail : String)
  | output (detail : String)
  deriving DecidableEq, Repr

def Failure.message : Failure → String
  | .configuration detail => detail
  | .lookup cause => cause.message
  | .structural cause => cause.message
  | .source detail => s!"Error during parsing: {detail}"
  | .image detail => s!"Error while reading binary: {detail}"
  | .output detail => s!"Error during debug-info generation: {detail}"

end DebugRecovery
