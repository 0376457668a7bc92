import DebugRecovery.Abort
import DebugRecovery.Digest.Sha256
import DebugRecovery.Document
import DebugRecovery.Files.Tree
import DebugRecovery.Journal
import DebugRecovery.Json.Writer

/-!
Saving a document. The binary is read first, so that without it no file is
touched; then the directories above the output are made, and the output is
emptied and written. A document that is nested too deep is written until that
shows.
-/

set_option autoImplicit false

namespace DebugRecovery.Document

def subject (files : FileTree) (binary : Path) : Except FileError Subject :=
  match files.read binary with
  | .error error => .error error
  | .ok content => .ok ⟨binary.text, Digest.Sha256.text content.toList⟩

/-- The text of the file that holds a document. -/
def text (document : Document) (subject : Subject) : String :=
  (document.toJson (some subject)).write

/-- Writes a document over what there was, as far as its nesting can be followed. -/
def overwrite (document : Document) (subject : Subject) (output : Path) :
    FileTree.Action Unit := fun files =>
  let depth := files.limits.depth .output
  let (text, whole) := (document.toJson (some subject)).writeWithin depth
  match FileTree.overwrite output text.toUTF8 files with
  | .error error later => .error error later
  | .ok _ later => if whole then .ok () later else .error ⟨.tooDeep, output⟩ later

def write (document : Document) (binary output : Path) : FileTree.Action Unit := fun files =>
  match subject files binary with
  | .error error => .error error files
  | .ok subject =>
      match FileTree.makeDirectories output.parent files with
      | .error error later => .error error later
      | .ok _ ready => document.overwrite subject output ready

def saveFailure (output : Path) (reason : String) : Failure :=
  .output s!"Failed to write {output.text}: {reason}"

/-- Writes the document and says why when it cannot. -/
def save (document : Document) (binary output : Path) : EStateM Abort FileTree Unit :=
  fun files =>
    match document.write binary output files with
    | .ok _ later => .ok () later
    | .error error later => .error (.ofFileFailure (saveFailure output) error) later

def savedEntry (document : Document) (output : Path) : Entry :=
  ⟨.info, Channel.document,
    s!"Wrote {output.text}: {document.structs.length} structs, " ++
      s!"{document.prototypes.length} prototypes, {document.functions.length} functions, " ++
      s!"{document.globals.length} globals"⟩

end DebugRecovery.Document
