import DebugRecovery.Clock
import DebugRecovery.Files.Tree
import DebugRecovery.Moment
import DebugRecovery.Text.Utf8

/-!
A session of the program: its files, what it printed, and where journal entries
go. While no handler is attached, entries from warnings upwards are printed as
errors. An open log sends entries to the console and all of them to a file, and
to no handler that was attached before.
-/

set_option autoImplicit false

namespace DebugRecovery

/-- Where entries go. The collection takes them as they are, the console those of a least level. -/
inductive Handler where
  | collection
  | console (least : Level)
  | file (path : Path)
  deriving DecidableEq, Repr

/-- The state of logging. The path is that of the current log file; `installed` are the handlers that
closing the log detaches. -/
structure Logging where
  isOpen : Bool := false
  path : Option Path := none
  handlers : List Handler := []
  installed : List Handler := []
  deriving DecidableEq, Repr

/-- `started` names the log file and `stamp` opens its lines. The clock stands still while a session
computes. -/
structure Session where
  files : FileTree
  logging : Logging := {}
  output : String := ""
  errors : String := ""
  collected : Journal := []
  clock : Instant
  started : Moment
  stamp : Moment

namespace Session

def print (text : String) (session : Session) : Session :=
  { session with output := session.output ++ text }

def printError (text : String) (session : Session) : Session :=
  { session with errors := session.errors ++ text }

/-- The line of an entry in a log file. -/
def fileLine (stamp : Moment) (entry : Entry) : String :=
  s!"{stamp.spaced} - {entry.channel} - {entry.level.label} - {entry.text}"

def appendLine (path : Path) (line : String) (files : FileTree) : FileTree :=
  match FileTree.append path (Text.Utf8.encode (line ++ "\n")) files with
  | .ok _ later => later
  | .error _ later => later

def handle (entry : Entry) (session : Session) : Handler → Session
  | .collection => { session with collected := session.collected ++ [entry] }
  | .console least =>
      if least.rank ≤ entry.level.rank then session.print (entry.line ++ "\n") else session
  | .file path =>
      { session with
        files := appendLine path (fileLine session.stamp entry) session.files }

def record (entry : Entry) (session : Session) : Session :=
  match session.logging.handlers with
  | [] =>
      if Level.warning.rank ≤ entry.level.rank then session.printError (entry.text ++ "\n")
      else session
  | handlers => handlers.foldl (handle entry) session

def recordAll (journal : Journal) (session : Session) : Session :=
  journal.foldl (fun session entry => session.record entry) session

def logName (moment : Moment) : String := s!"sigsym_reconstructor_{moment.compact}.log"

def consoleLevel (verbose : Bool) : Level := if verbose then .debug else .info

def truthText (value : Bool) : String := if value then "True" else "False"

def openedJournal (path : Path) (verbose : Bool) : Journal :=
  [⟨.info, Channel.logging, s!"Logging initialized. Log file: {path.text}"⟩,
    ⟨.debug, Channel.logging, s!"Verbose mode: {truthText verbose}"⟩]

/-- Opens a log in a directory; an open log stays as it is. The console is attached before the
file is opened, and both count as installed only then. -/
def openLog (directory : Path) (verbose : Bool) : EStateM FileError Session Unit := fun session =>
  if session.logging.isOpen then .ok () session
  else match FileTree.makeDirectories directory session.files with
    | .error error files => .error error { session with files }
    | .ok _ files =>
        let path := directory.child (logName session.started)
        let console := Handler.console (consoleLevel verbose)
        match FileTree.append path .empty files with
        | .error error files =>
            let left := { session.logging with path := some path, handlers := [console] }
            .error error { session with files, logging := left }
        | .ok _ files =>
            let handlers := [console, .file path]
            let opened := { session with files, logging := ⟨true, some path, handlers, handlers⟩ }
            .ok () (opened.recordAll (openedJournal path verbose))

/-- Detaches the installed handlers. -/
def closeLog (session : Session) : Session :=
  let { handlers, installed, .. } := session.logging
  { session with logging := { handlers := installed.foldl List.erase handlers } }

end Session

end DebugRecovery
