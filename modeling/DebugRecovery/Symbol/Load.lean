import DebugRecovery.Abort
import DebugRecovery.Json.Reader
import DebugRecovery.Symbol.Table
import DebugRecovery.Text.Newline

/-!
Loading a table of queries from a file, in UTF-8 and with any line ends.
Without a file the table is empty. A reader that stops at one of its limits has
not found a mistake in the file.
-/

set_option autoImplicit false

namespace DebugRecovery.QueryTable

def unreadable (path : Path) (reason : String) : Failure :=
  .configuration s!"Failed to load symbol configuration {path.text}: {reason}"

/-- The text of a file with every line end as a line feed. -/
def fileText (content : ByteArray) : Except Abort String :=
  match Text.Utf8.decode content with
  | .error fault => .error (.encoding fault)
  | .ok text => .ok (String.ofList (Text.unifyNewlines text.toList))

/-- What ends the reading of a document at a limit of the reader. -/
def stopped? : Json.Mistake → Option Abort
  | .overlong limit digits => some (.value (Json.Mistake.overlong limit digits).text)
  | .tooDeep container => some (.tooDeep (Json.Mistake.tooDeep container).text)
  | _ => none

def misread (path : Path) (text : String) (misreading : Json.Misreading) : Abort :=
  (stopped? misreading.mistake).getD (.failure (unreadable path (misreading.message text)))

/-- The document in a file, which a reader without limits reads unless others are given. -/
def readDocument (files : FileTree) (path : Path) (limits : Json.Limits := {}) :
    Except Abort Json :=
  match files.read path with
  | .error error => .error (.ofFileFailure (unreadable path) error)
  | .ok content => do
      let text ← fileText content
      match Json.read text limits with
      | .error misreading => .error (misread path text misreading)
      | .ok document => .ok document

/-- The most digits that an integer in a table can have. -/
def longestInteger : Nat := 4300

def readLimits (files : FileTree) : Json.Limits :=
  ⟨some longestInteger, files.limits.depth .document⟩

def load (files : FileTree) : Option Path → Except Abort QueryTable
  | none => .ok {}
  | some path => do
      let document ← readDocument files path (readLimits files)
      match ofJson document with
      | .error defect => .error (.failure (.configuration defect.text))
      | .ok table => .ok table

def loadedNote (table : QueryTable) : Entry :=
  ⟨.info, Channel.symbols,
    s!"Loaded {table.functions.length} functions and " ++
      s!"{table.globals.length} globals."⟩

def absentNote : Entry :=
  ⟨.info, Channel.symbols, "No symbol configuration given, emitting types only"⟩

/-- What loading leaves in the journal. -/
def loadJournal (files : FileTree) : Option Path → Journal
  | none => [absentNote]
  | some path =>
      match readDocument files path (readLimits files) with
      | .error _ => []
      | .ok document =>
          notes document ++
            match ofJson document with
            | .error _ => []
            | .ok table => [table.loadedNote]

end DebugRecovery.QueryTable
