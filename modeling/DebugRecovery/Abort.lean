import DebugRecovery.Failure
import DebugRecovery.Files.Tree
import DebugRecovery.Text.Utf8

/-!
What can end an activity: a failure with a cause in the data, a value out of
place, text in no known encoding, a file that cannot be used, an offset beyond
all positions in a file, an instant beyond all that the clock can tell, something
nested without an end or deeper than the stack reaches, or an argument that is
vacant.
-/

set_option autoImplicit false

namespace DebugRecovery

/-- What a vacant argument was needed for. -/
inductive Need where
  | file
  | directory
  | option
  deriving DecidableEq, Repr

/-- The word for what a vacant argument does not have. -/
def Need.label : Need → String
  | .file => "is_file"
  | .directory => "parent"
  | .option => "replace"

inductive Abort where
  | failure (cause : Failure)
  | value (detail : String)
  | encoding (fault : Text.Utf8.Fault)
  | file (error : FileError)
  | offset
  | instant
  | endless
  | tooDeep (activity : String)
  | vacant (need : Need)
  deriving DecidableEq, Repr

def Abort.message : Abort → String
  | .failure cause => cause.message
  | .value detail => detail
  | .encoding fault => fault.message
  | .file error => error.message
  | .offset => "cannot fit 'int' into an index-sized integer"
  | .instant => "integer division result too large for a float"
  | .endless => FileProblem.tooDeep.text
  | .tooDeep activity => s!"{FileProblem.tooDeep.text} while {activity}"
  | .vacant need => s!"'list' object has no attribute '{need.label}'"

/-- Whether the abort comes of a value, the encoding of a text among them. -/
def Abort.isBadValue : Abort → Bool
  | .value _ => true
  | .encoding _ => true
  | .failure (.configuration _) => true
  | _ => false

/-- A zero in a path is a bad value, and directories below too many missing ones have no end: the
system is not asked for either. -/
def Abort.ofUnasked? : FileProblem → Option Abort
  | .zeroInPath => some (.value FileProblem.zeroInPath.text)
  | .tooDeep => some .endless
  | _ => none

/-- What ends an activity that needs a file. -/
def Abort.ofFileError (error : FileError) : Abort := (ofUnasked? error.problem).getD (.file error)

/-- What ends an activity for which a file is an input or an output, told as a failure of it. -/
def Abort.ofFileFailure (failure : String → Failure) (error : FileError) : Abort :=
  (ofUnasked? error.problem).getD (.failure (failure error.message))

end DebugRecovery
