import DebugRecovery.Program
import Std.Time.Format

/-!
The command line. The files that a run may look up are read before it starts, and
those that it changed are written after it ended. No C front end is linked here,
so that a run ends where it would parse the source.
-/

set_option autoImplicit false

namespace DebugRecovery.CommandLine

def programName : String := "sigsym-reconstructor"

def frontEnd : Source.FrontEnd := .missing "no front end is linked into this program"

/-- The name and the value on the two sides of the first equals sign. -/
def assignment? (entry : String) : Option (String × String) :=
  let name := entry.toList.takeWhile (· != '=')
  match entry.toList.drop name.length with
  | [] => none
  | _ :: value => some (String.ofList name, String.ofList value)

/-- The variables of the process stand one after the other, a zero after each. -/
def environment : IO Settings.Environment := do
  let content ← IO.FS.readFile "/proc/self/environ"
  return (content.splitOn "\x00").filterMap assignment?

def absoluteText (place : Place) : String := "/" ++ "/".intercalate place.reverse

/-- What is at a place; what is there and cannot be read as a file counts as a directory. -/
def inspect (place : Place) : IO (Option Node) := do
  try
    let content ← IO.FS.readBinFile (absoluteText place)
    return some (.file content)
  catch
    | .noFileOrDirectory .. => return none
    | _ => return some .directory

/-- Adds to a tree what is found on the way along some parts. -/
def survey (files : FileTree) (place : Place) : List String → IO FileTree
  | [] => return files
  | part :: parts =>
      if part == ".." then survey files (place.drop 1) parts
      else do
        match ← inspect (part :: place) with
        | none => return files
        | some .directory => survey (files.put (part :: place) .directory) (part :: place) parts
        | some node => return files.put (part :: place) node

def surveyPath (files : FileTree) (path : Path) : IO FileTree :=
  survey files (if path.anchor == .workingDirectory then files.workingDirectory else []) path.parts

/-- The tree that holds the working directory and nothing else. -/
def emptyTree : IO FileTree := do
  let directory := Path.ofText (toString (← IO.currentDir))
  let bare : FileTree := { nodes := [], workingDirectory := directory.parts.reverse }
  survey bare [] directory.parts

/-- Writes one node, unless it was there before. -/
def store (before : FileTree) (place : Place) : Node → IO Unit
  | .device => return
  | .directory =>
      match before.node? place with
      | some .directory => return
      | _ => IO.FS.createDirAll (absoluteText place)
  | .file content =>
      match before.node? place with
      | some (.file old) =>
          if old == content then return else IO.FS.writeBinFile (absoluteText place) content
      | _ => IO.FS.writeBinFile (absoluteText place) content

def currentMoment : IO Moment := do
  let now ← Std.Time.PlainDateTime.now
  return ⟨now.year.toInt.toNat, now.month.val.toNat, now.day.val.toNat, now.hour.val.toNat,
    now.minute.val.toNat, now.second.val.toNat⟩

def finish (before : FileTree) (session : Session) : IO Unit := do
  for (place, node) in session.files.nodes do store before place node
  IO.print session.output
  IO.eprint session.errors

def run (tokens : List String) : IO UInt32 := do
  let invocation : Invocation := ⟨programName, tokens, ← environment, frontEnd⟩
  let moment ← currentMoment
  let empty ← emptyTree
  let known ← ((Settings.defaultFile empty).toOption.toList).foldlM surveyPath empty
  let before ← (Program.paths invocation known moment).foldlM surveyPath known
  let clock := (Instant.ofMilliseconds? (← IO.monoMsNow)).getD .origin
  let session : Session := { files := before, clock, started := moment, stamp := moment }
  match Program.run invocation ⟨session, []⟩ with
  | .ok status last => do
      finish before last.session
      return UInt32.ofNat status.code
  | .error abort last => do
      finish before last.session
      IO.eprintln abort.message
      return 1

end DebugRecovery.CommandLine

def main (tokens : List String) : IO UInt32 := DebugRecovery.CommandLine.run tokens
