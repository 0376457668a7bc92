import DebugRecovery.Proofs.Session
import Mathlib.Data.List.Induction

/-!
# Sequences of calls on a log

A log is opened, entries are recorded and the log is closed, in any sequence. An
opening ends in one of four ways, and three of them keep what is known of
logging: it is open with the handlers of the last opening that took effect, or
closed without a path and with no handlers of such an opening. An opening that
comes to its file and cannot write it leaves the path and the console behind,
so a sequence is as expected exactly when it has no opening of that kind.
-/

set_option autoImplicit false

namespace DebugRecovery

/-- A call on the log of a session. Between two calls time passes and the files may change. -/
inductive LogCall where
  | opening (directory : Path) (verbose : Bool)
  | entry (entry : Entry)
  | closing
  | passing (files : FileTree) (started stamp : Moment)

/-- What an opening that takes effect sets up. -/
structure LogSetup where
  path : Path
  verbose : Bool

namespace LogSetup

def handlers (setup : LogSetup) : List Handler :=
  [.console (Session.consoleLevel setup.verbose), .file setup.path]

def logging (setup : LogSetup) : Logging := ⟨true, some setup.path, setup.handlers, setup.handlers⟩

/-- Logging when the log file cannot be written: the path and the console stand already, and neither
counts as installed. -/
def halfway (setup : LogSetup) (logging : Logging) : Logging :=
  { logging with
    path := some setup.path
    handlers := [.console (Session.consoleLevel setup.verbose)] }

end LogSetup

namespace Session

variable {session : Session} {directory : Path} {verbose : Bool}

def setup (directory : Path) (verbose : Bool) (session : Session) : LogSetup :=
  ⟨directory.child (logName session.started), verbose⟩

/-- An opening comes to its log file and cannot write it. -/
def FileRefused (session : Session) (directory : Path) : Prop :=
  session.logging.isOpen = false ∧ ∃ ready error left,
    FileTree.makeDirectories directory session.files = .ok () ready ∧
      FileTree.append (directory.child (logName session.started)) .empty ready = .error error left

/-- The ways in which an opening ends: the log is open, its directory cannot be made, its file
cannot be written, or it takes effect. -/
inductive Opening (session : Session) (directory : Path) (verbose : Bool) :
    EStateM.Result FileError Session Unit → Prop where
  | again (opened : session.logging.isOpen = true) :
      Opening session directory verbose (.ok () session)
  | unmade (closed : session.logging.isOpen = false) (error : FileError) (files : FileTree) :
      Opening session directory verbose (.error error { session with files })
  | refused (cause : FileRefused session directory) (error : FileError) (files : FileTree) :
      Opening session directory verbose (.error error { session with
        files, logging := (session.setup directory verbose).halfway session.logging })
  | effective (closed : session.logging.isOpen = false) (later : Session)
      (installed : later.logging = (session.setup directory verbose).logging) :
      Opening session directory verbose (.ok () later)

theorem open_log_opening (session : Session) (directory : Path) (verbose : Bool) :
    Opening session directory verbose (openLog directory verbose session) := by
  unfold openLog
  dsimp only
  split
  · rename_i opened
    exact .again opened
  rename_i unopened
  have closed : session.logging.isOpen = false := by simpa using unopened
  split
  · rename_i error files unmade
    exact .unmade closed error files
  rename_i done ready made
  split
  · rename_i error files unwritten
    exact .refused ⟨closed, ready, error, files, made, unwritten⟩ error files
  · rename_i appended files written
    exact .effective closed _ (record_all_logging _ _)

theorem open_log_again (opened : session.logging.isOpen = true) :
    openLog directory verbose session = .ok () session := by
  simp [openLog, opened]

theorem open_log_refused (verbose : Bool) (cause : FileRefused session directory) :
    ∃ error files, openLog directory verbose session = .error error { session with
      files, logging := (session.setup directory verbose).halfway session.logging } := by
  obtain ⟨closed, ready, error, left, made, failed⟩ := cause
  exact ⟨error, left, by simp [openLog, closed, made, failed, setup, LogSetup.halfway]⟩

/-- Closing takes away what an opening installed, and nothing else. -/
theorem close_log_keeps (handlers : List Handler)
    (uninstalled : session.logging = { session.logging with handlers, installed := [] }) :
    session.closeLog.logging = { handlers } := by
  rw [closeLog, uninstalled]
  rfl

end Session

/-- A session in the course of calls, with the setup of the last opening that took effect. -/
structure LogCourse where
  session : Session
  latest : Option LogSetup

namespace LogCourse

open Session

variable {course start : LogCourse} {call : LogCall} {calls : List LogCall} {directory : Path}
  {verbose : Bool}

/-- The course before any call; whatever handlers are attached, no opening attached them. -/
def before (session : Session) (handlers : List Handler) : LogCourse :=
  ⟨{ session with logging := { handlers } }, none⟩

/-- What a call leaves; one that fails keeps what it did until then. -/
def step (course : LogCourse) : LogCall → LogCourse
  | .opening directory verbose =>
      match openLog directory verbose course.session with
      | .ok _ session =>
          let setup := course.session.setup directory verbose
          ⟨session, if course.session.logging.isOpen then course.latest else some setup⟩
      | .error _ session => { course with session }
  | .entry entry => { course with session := course.session.record entry }
  | .closing => { course with session := course.session.closeLog }
  | .passing files started stamp =>
      { course with session := { course.session with files, started, stamp } }

def after (course : LogCourse) (calls : List LogCall) : LogCourse := calls.foldl step course

theorem after_append_call (course : LogCourse) (calls : List LogCall) (call : LogCall) :
    course.after (calls ++ [call]) = (course.after calls).step call := by
  simp [after]

/-- A log is open when there is a path for it, and when the handlers are those of the last opening
that took effect. -/
structure Coherent (course : LogCourse) : Prop where
  path : course.session.logging.isOpen = true ↔ course.session.logging.path.isSome = true
  handlers : course.session.logging.isOpen = true ↔
    ∃ setup, course.latest = some setup ∧ course.session.logging.handlers = setup.handlers

/-- After any of the calls all is coherent and a further opening of an open log changes nothing, and
each of the calls that is an opening and fails leaves logging as it was. -/
structure AsExpected (start : LogCourse) (calls : List LogCall) : Prop where
  coherent : ∀ done, done <+: calls → (start.after done).Coherent
  again : ∀ done directory verbose, done <+: calls →
    (start.after done).session.logging.isOpen = true →
      openLog directory verbose (start.after done).session = .ok () (start.after done).session
  unchanged : ∀ done directory verbose error later, done ++ [.opening directory verbose] <+: calls →
    openLog directory verbose (start.after done).session = .error error later →
      later.logging = (start.after done).session.logging

/-- None of the calls is an opening that comes to its log file and cannot write it. -/
def Unrefused (start : LogCourse) (calls : List LogCall) : Prop :=
  ∀ done directory verbose, done ++ [.opening directory verbose] <+: calls →
    ¬ FileRefused (start.after done).session directory

/-- What is known of logging: it is as the last opening set it up, or closed, and then it has no
handlers once an opening took effect. -/
inductive Settled (course : LogCourse) : Prop where
  | opened (setup : LogSetup) (latest : course.latest = some setup)
      (logging : course.session.logging = setup.logging)
  | closed (handlers : List Handler) (logging : course.session.logging = { handlers })
      (emptied : course.latest.isSome = true → handlers = [])

theorem settled_before (session : Session) (handlers : List Handler) :
    (before session handlers).Settled :=
  .closed handlers rfl (by simp [before])

theorem coherent_of_settled (settled : course.Settled) : course.Coherent := by
  cases settled with
  | opened setup latest logging =>
      constructor
      · simp [logging, LogSetup.logging]
      · simp [logging, LogSetup.logging, latest]
  | closed handlers logging emptied =>
      constructor
      · simp [logging]
      · suffices ∀ setup, course.latest = some setup → handlers ≠ setup.handlers by
          simpa [logging] using this
        intro setup latest same
        have empty := emptied (by simp [latest])
        simp [same, LogSetup.handlers] at empty

/-- Only the logging of a session and the last setup matter. -/
theorem settled_of_same {later : LogCourse} (settled : course.Settled)
    (logging : later.session.logging = course.session.logging)
    (latest : later.latest = course.latest) : later.Settled := by
  cases settled with
  | opened setup set installed => exact .opened setup (latest.trans set) (logging.trans installed)
  | closed handlers closed emptied =>
      exact .closed handlers (logging.trans closed) (by rwa [latest])

theorem opening_settled (settled : course.Settled)
    (accepted : ¬ FileRefused course.session directory) :
    (course.step (.opening directory verbose)).Settled := by
  have ways := open_log_opening course.session directory verbose
  simp only [step]
  generalize openLog directory verbose course.session = result at ways
  cases ways with
  | again opened => exact settled_of_same settled rfl (by simp [opened])
  | unmade closed error files => exact settled_of_same settled rfl rfl
  | refused cause => exact absurd cause accepted
  | effective closed later installed =>
      exact .opened (course.session.setup directory verbose) (by simp [closed]) installed

theorem closing_settled (settled : course.Settled) : (course.step .closing).Settled := by
  cases settled with
  | opened setup latest logging =>
      refine .closed [] ?_ fun _ => rfl
      simp [step, closeLog, logging, LogSetup.logging, LogSetup.handlers]
  | closed handlers logging emptied =>
      exact .closed handlers (close_log_keeps handlers (by rw [logging])) emptied

theorem step_settled (settled : course.Settled)
    (accepted : ∀ directory verbose, call = .opening directory verbose →
      ¬ FileRefused course.session directory) : (course.step call).Settled := by
  cases call with
  | opening directory verbose => exact opening_settled settled (accepted directory verbose rfl)
  | entry entry => exact settled_of_same settled (record_logging entry course.session) rfl
  | closing => exact closing_settled settled
  | passing files started stamp => exact settled_of_same settled rfl rfl

theorem refused_left (verbose : Bool) (cause : FileRefused course.session directory) :
    (course.step (.opening directory verbose)).session.logging =
      (course.session.setup directory verbose).halfway course.session.logging := by
  obtain ⟨error, files, failed⟩ := open_log_refused verbose cause
  simp only [step, failed]

theorem refused_incoherent (cause : FileRefused course.session directory) :
    ¬ (course.step (.opening directory verbose)).Coherent := by
  intro coherent
  have path := coherent.path
  rw [refused_left verbose cause] at path
  simp [LogSetup.halfway, cause.1] at path

/-- By induction on the calls that are done, from the last of them. -/
theorem after_settled {done : List LogCall} (settled : start.Settled)
    (unrefused : Unrefused start calls) (part : done <+: calls) : (start.after done).Settled := by
  induction done using List.reverseRecOn with
  | nil => exact settled
  | append_singleton done call induction =>
      rw [after_append_call]
      refine step_settled (induction ((List.prefix_append done [call]).trans part)) ?_
      rintro directory verbose rfl
      exact unrefused done directory verbose part

theorem failed_opening_unchanged {error : FileError} {later : Session}
    (accepted : ¬ FileRefused course.session directory)
    (failed : openLog directory verbose course.session = .error error later) :
    later.logging = course.session.logging := by
  have ways := open_log_opening course.session directory verbose
  rw [failed] at ways
  cases ways with
  | unmade closed => rfl
  | refused cause => exact absurd cause accepted

/-- A course is as expected unless an opening comes to its log file and cannot write it. -/
theorem as_expected_iff_unrefused (session : Session) (handlers : List Handler)
    (calls : List LogCall) :
    AsExpected (before session handlers) calls ↔ Unrefused (before session handlers) calls := by
  constructor
  · intro expected done directory verbose part cause
    have coherent := expected.coherent _ part
    rw [after_append_call] at coherent
    exact refused_incoherent cause coherent
  · intro unrefused
    have settled := settled_before session handlers
    constructor
    · intro done part
      exact coherent_of_settled (after_settled settled unrefused part)
    · intro done directory verbose part opened
      exact open_log_again opened
    · intro done directory verbose error later part failed
      exact failed_opening_unchanged (unrefused done directory verbose part) failed

def bareSession : Session where
  files := { nodes := [(["scratch"], .directory)], workingDirectory := ["scratch"] }
  clock := .origin
  started := ⟨2024, 1, 2, 3, 4, 5⟩
  stamp := ⟨1970, 1, 1, 0, 0, 0⟩

def bareLogName : String := "sigsym_reconstructor_20240102_030405.log"

theorem bare_log_name : logName bareSession.started = bareLogName := by decide +kernel

def plainDirectory : Path := ⟨.workingDirectory, ["l"]⟩

def plainFiles : FileTree := bareSession.files.put ["l", "scratch"] .directory

/-- A directory that is reached through one with the name of the log file. -/
def crossingDirectory : Path := ⟨.workingDirectory, ["l", bareLogName, ".."]⟩

theorem bare_name_plain {name : String} (known : name ∈ ["l", bareLogName, ".."]) :
    name.contains '\x00' = false ∧ Path.isLongName name = false := by
  simp only [List.mem_cons, List.not_mem_nil, or_false] at known
  rcases known with rfl | rfl | rfl <;> exact ⟨by simp [bareLogName], by decide⟩

/-- On the way through the log file nothing keeps a path from being followed. -/
theorem bare_path_plain {parts : List String}
    (known : parts ∈ ["l", bareLogName, "..", bareLogName].inits) :
    Path.hasZero ⟨.workingDirectory, parts⟩ = false ∧
      Path.isLong ⟨.workingDirectory, parts⟩ = false := by
  simp only [List.inits, List.map_cons, List.map_nil, List.mem_cons, List.not_mem_nil,
    or_false] at known
  rcases known with rfl | rfl | rfl | rfl | rfl <;>
    exact ⟨by simp [Path.hasZero, bareLogName], by decide +kernel⟩

theorem plain_directory_free : bareSession.files.node? ["l", "scratch"] = none := by
  simp [FileTree.node?, bareSession, List.lookup_cons]

theorem bare_directory_there : bareSession.files.node? ["scratch"] = some .directory := by
  simp [FileTree.node?, bareSession]

theorem plain_directory_located :
    bareSession.files.locate plainDirectory = .ok ["l", "scratch"] := by
  obtain ⟨unmarked, short⟩ := bare_name_plain (by simp : "l" ∈ _)
  exact FileTree.locate_name FileTree.locate_here bare_directory_there rfl unmarked short
    (bare_path_plain (by simp : ["l"] ∈ _)).2 (by decide)

theorem plain_directory_made (waiting : Nat) :
    FileTree.makeDirectoriesAt .workingDirectory waiting ["l"] bareSession.files =
      .ok () plainFiles :=
  FileTree.make_directories_at_once
    (FileTree.ensure_directory_new plain_directory_located plain_directory_free rfl)

theorem plain_log_free : plainFiles.node? [bareLogName, "l", "scratch"] = none := by
  simp [FileTree.node?, FileTree.put, Association.put, plainFiles, bareSession, List.lookup_cons]

theorem bare_log_located :
    plainFiles.locate (plainDirectory.child bareLogName) = .ok [bareLogName, "l", "scratch"] := by
  have located : plainFiles.locate plainDirectory = .ok ["l", "scratch"] :=
    FileTree.locate_put (by simp [plain_directory_free]) plain_directory_located
  obtain ⟨unmarked, short⟩ := bare_name_plain (by simp : bareLogName ∈ _)
  exact FileTree.locate_name located (FileTree.node_put_same (by simp)) rfl unmarked short
    (bare_path_plain (by simp : ["l", bareLogName] ∈ _)).2 (by decide)

theorem plain_log_written : ∃ files,
    FileTree.append (plainDirectory.child bareLogName) .empty plainFiles = .ok () files :=
  FileTree.append_nothing_ok bare_log_located (.new plain_log_free rfl)

theorem plain_log_unrefused : ¬ FileRefused bareSession plainDirectory := by
  rintro ⟨closed, ready, error, left, made, failed⟩
  obtain ⟨files, written⟩ := plain_log_written
  rw [FileTree.makeDirectories, plainDirectory] at made
  cases (plain_directory_made 0).symm.trans made
  rw [bare_log_name, written] at failed
  contradiction

theorem plain_log_expected :
    AsExpected (before bareSession [.collection]) [.opening plainDirectory true, .closing] := by
  refine (as_expected_iff_unrefused bareSession [.collection] _).mpr ?_
  rintro done directory verbose ⟨rest, same⟩
  cases done with
  | nil =>
      cases same
      exact plain_log_unrefused
  | cons call done =>
      cases done with
      | nil => simp at same
      | cons other done => simp at same

def crossedFiles : FileTree := plainFiles.put [bareLogName, "l", "scratch"] .directory

theorem crossed_outer : crossedFiles.node? ["l", "scratch"] = some .directory :=
  FileTree.node_put_other (by simp)

theorem crossed_inner : crossedFiles.node? [bareLogName, "l", "scratch"] = some .directory :=
  FileTree.node_put_same (by simp)

theorem crossing_located : crossedFiles.locate crossingDirectory = .ok ["l", "scratch"] := by
  have named : crossedFiles.locate (plainDirectory.child bareLogName) =
      .ok [bareLogName, "l", "scratch"] :=
    FileTree.locate_put (by simp [plain_log_free]) bare_log_located
  have back : crossedFiles.enter [bareLogName, "l", "scratch"] ".." = .ok ["l", "scratch"] :=
    FileTree.enter_ok_iff.mpr ⟨crossed_inner, rfl, rfl, rfl⟩
  exact FileTree.locate_further named back (bare_name_plain (by simp : ".." ∈ _)).1
    (bare_path_plain (by simp : ["l", bareLogName, ".."] ∈ _)).2

/-- Nothing in the missing directory can be reached. -/
theorem crossing_lost (further : List String)
    (known : "l" :: bareLogName :: further ∈ ["l", bareLogName, "..", bareLogName].inits) :
    bareSession.files.locate ⟨.workingDirectory, "l" :: bareLogName :: further⟩ =
      .error .missing := by
  obtain ⟨unmarked, short⟩ := bare_path_plain known
  exact FileTree.locate_beyond plain_directory_located plain_directory_free unmarked short

theorem crossing_directory_made :
    FileTree.makeDirectories crossingDirectory bareSession.files = .ok () crossedFiles := by
  have made : FileTree.ensureDirectory ⟨.workingDirectory, ["l", bareLogName]⟩ plainFiles =
      .ok () crossedFiles :=
    FileTree.ensure_directory_new bare_log_located plain_log_free rfl
  have outer : FileTree.makeDirectoriesAt .workingDirectory 1 [bareLogName, "l"]
      bareSession.files = .ok () crossedFiles :=
    FileTree.make_directories_at_above (crossing_lost [] (by simp)) rfl (plain_directory_made 2)
      made
  exact FileTree.make_directories_at_above (crossing_lost [".."] (by simp)) rfl outer
    (FileTree.ensure_directory_there crossing_located crossed_outer)

theorem crossing_log_refused : FileRefused bareSession crossingDirectory := by
  have located : crossedFiles.locate (crossingDirectory.child bareLogName) =
      .ok [bareLogName, "l", "scratch"] := by
    obtain ⟨unmarked, short⟩ := bare_name_plain (by simp : bareLogName ∈ _)
    exact FileTree.locate_name crossing_located crossed_outer rfl unmarked short
      (bare_path_plain (by simp : ["l", bareLogName, "..", bareLogName] ∈ _)).2 (by decide)
  have unwritten : FileTree.append (crossingDirectory.child bareLogName) .empty crossedFiles =
      .error ⟨.isDirectory, crossingDirectory.child bareLogName⟩ crossedFiles := by
    simp only [FileTree.append, FileTree.write, FileTree.openToWrite, located, crossed_inner]
  exact ⟨rfl, crossedFiles, _, _, crossing_directory_made, by rw [bare_log_name, unwritten]⟩

theorem crossing_log_unexpected :
    ¬ AsExpected (before bareSession []) [.opening crossingDirectory false] := by
  intro expected
  have coherent := expected.coherent _ List.prefix_rfl
  exact refused_incoherent crossing_log_refused coherent

end LogCourse

end DebugRecovery
