import DebugRecovery.Proofs.Document.File
import DebugRecovery.Proofs.Program
import DebugRecovery.Proofs.Session

/-!
# A run and its log

Up to the opening of the log a run changes nothing but what is printed. From then
on it keeps writing to the log, and to no other file until the document is saved:
a production that fails has touched the log only, or it was interrupted while the
output was written.
-/

set_option autoImplicit false

namespace DebugRecovery.Program

open Source

variable {invocation : Invocation} {plan : Plan} {frontEnd : FrontEnd}
  {program later ready left : Program} {path : Path} {place : Place} {files : FileTree}
  {clock : Instant}

theorem begun_unheard (unopened : program.session.logging = {}) :
    ∃ errors, (begun program).session = program.session.withErrors errors := by
  have unheard : program.session.logging.handlers = [] := by rw [unopened]
  exact Session.record_unheard activity.startedEntry unheard

theorem settling_unheard (invocation : Invocation) (unopened : program.session.logging = {}) :
    ∃ errors, (settling invocation program).session = program.session.withErrors errors := by
  obtain ⟨first, same⟩ := begun_unheard unopened
  have unheard : (begun program).session.logging.handlers = [] := by
    rw [same, Session.withErrors, unopened]
  obtain ⟨errors, told⟩ :=
    Session.record_all_unheard (loading invocation program).journal unheard
  refine ⟨errors, told.trans ?_⟩
  rw [same]
  rfl

theorem begun_files (unopened : program.session.logging = {}) :
    (begun program).session.files = program.session.files := by
  obtain ⟨errors, same⟩ := begun_unheard unopened
  rw [same, Session.withErrors]

/-- What is asked for, and what comes of it with the settings that the files hold. -/
structure Planned (invocation : Invocation) (files : FileTree) (options : Options)
    (outcome : Except Abort Plan) : Prop where
  asked : Options.ofTokens invocation.tokens = .ok options
  plan : Program.plan files options
    (Settings.loadDefault files invocation.environment).settings = outcome

theorem planned_unique {options others : Options} {outcome other : Except Abort Plan}
    (planned : Planned invocation files options outcome)
    (again : Planned invocation files others other) : outcome = other := by
  obtain ⟨asked, rfl⟩ := planned
  obtain ⟨same, rfl⟩ := again
  rw [asked] at same
  cases same
  rfl

theorem settles_iff (unopened : program.session.logging = {}) {options : Options}
    {outcome : Except Abort Plan} :
    Settles invocation program options outcome ↔
      Planned invocation program.session.files options outcome := by
  have files := begun_files unopened
  constructor
  · rintro ⟨asked, settled⟩
    rw [loading, files] at settled
    exact ⟨asked, settled⟩
  · rintro ⟨asked, planned⟩
    refine ⟨asked, ?_⟩
    rw [loading, files]
    exact planned

/-- The log is open under the path, which leads to the place, and since the tree was `files` no
other file was touched. -/
structure Logged (path : Path) (place : Place) (files : FileTree) (clock : Instant)
    (program : Program) : Prop where
  log : Session.LogAt path place program.session
  files : FileTree.Spares (· = place) files program.session.files
  clock : program.now = clock

theorem logged_quiet (logged : Logged path place files clock program)
    (quiet : Session.Quiet (· = place) program.session later.session) :
    Logged path place files clock later where
  log := Session.log_at_quiet logged.log quiet
  files := FileTree.spares_trans logged.files quiet.files
  clock := quiet.clock.trans logged.clock

theorem logged_recorded (entry : Entry) (logged : Logged path place files clock program) :
    Logged path place files clock (recorded entry program) :=
  logged_quiet logged (Session.record_quiet entry logged.log.logs)

theorem logged_recorded_all (journal : Journal) (logged : Logged path place files clock program) :
    Logged path place files clock (recordedAll journal program) :=
  logged_quiet logged (Session.record_all_quiet journal logged.log.logs)

/-- Whatever file is written, the log is where it was, and from then on nothing but the log is
touched. -/
theorem logged_written {changed : Place → Prop} {tree : FileTree}
    (logged : Logged path place files clock program)
    (spared : FileTree.Spares changed program.session.files tree) :
    Logged path place tree clock (withFiles tree program) :=
  ⟨Session.log_at_spared logged.log spared, FileTree.spares_refl _ _, logged.clock⟩

theorem logged_opening (plan : Plan) (logged : Logged path place files clock program) :
    Logged path place files clock (opening plan program) :=
  logged_recorded _ (logged_recorded_all _ logged)

theorem logged_imaged (plan : Plan) (logged : Logged path place files clock program) :
    Logged path place files clock (imaged plan program) :=
  logged_recorded_all _ (logged_opening plan logged)

theorem logged_parsed (image : Image) (logged : Logged path place files clock program) :
    Logged path place files clock (parsed frontEnd plan program image) := by
  have image : Logged path place files clock (imaged plan program) := logged_imaged plan logged
  obtain ⟨log, spared, clock⟩ := logged_recorded_all
    (frontEnd.parseJournal plan.source plan.settings.options _) image
  exact ⟨log, spared, clock⟩

theorem logged_of_rebuilds {report : Report} {document : Document}
    (logged : Logged path place files clock program)
    (rebuilds : Rebuilds frontEnd plan program report document ready) :
    Logged path place files clock ready := by
  obtain ⟨table, image, source, report, left, loaded, ran⟩ := rebuilds
  exact logged_recorded_all _ (logged_parsed image logged)

/-- The production ended while its output was written. -/
inductive Interrupts (frontEnd : FrontEnd) (plan : Plan) (program : Program) :
    Abort → Program → Prop where
  | intro (report : Report) (document : Document) (ready : Program) (output : Path)
      (abort : Abort) (tree : FileTree) (target : Place)
      (rebuilds : Rebuilds frontEnd plan program report document ready)
      (named : plan.output = .ok output)
      (cut : document.CutShort plan.binary output ready.session.files tree abort target) :
      Interrupts frontEnd plan program abort (withFiles tree ready)

/-- Until the output is written, nothing but the log is touched. -/
theorem logged_or_interrupted {abort : Abort} (logged : Logged path place files clock program)
    (produces : Produces frontEnd plan program (.error abort) later) :
    Logged path place files clock later ∨ Interrupts frontEnd plan program abort later := by
  cases produces with
  | table abort failed => exact Or.inl (logged_recorded_all _ logged)
  | image table abort tabulated failed => exact Or.inl (logged_imaged plan logged)
  | source table image abort tabulated read failed => exact Or.inl (logged_parsed image logged)
  | reconstruction table image source abort left loaded failed =>
      exact Or.inl (logged_recorded_all _ (logged_parsed image logged))
  | output report document ready abort rebuilds failed =>
      exact Or.inl (logged_of_rebuilds logged rebuilds)
  | save report document ready output abort tree rebuilds named failed =>
      rcases Document.save_error_spares failed with spared | ⟨target, cut⟩
      · exact Or.inl (logged_quiet (logged_of_rebuilds logged rebuilds) ⟨spared _, rfl, rfl⟩)
      · exact Or.inr (.intro report document ready output abort tree target rebuilds named cut)

theorem logged_of_interrupts {abort : Abort} (logged : Logged path place files clock program)
    (interrupts : Interrupts frontEnd plan program abort later) :
    Logged path place later.session.files clock later := by
  obtain ⟨report, document, ready, output, _, tree, target, rebuilds, named, cut⟩ := interrupts
  exact logged_written (logged_of_rebuilds logged rebuilds) cut.spares

/-- The log is where it was when the document has been saved. -/
theorem logged_of_saved {document : Document} {output : Path} {tree : FileTree}
    (logged : Logged path place files clock ready)
    (saved : document.save plan.binary output ready.session.files = .ok () tree) :
    Logged path place tree clock
      (recorded (document.savedEntry output) (withFiles tree ready)) := by
  obtain ⟨_, _, _, _, spared, _⟩ := Document.save_ok_spares saved
  exact logged_recorded _ (logged_written logged spared)

theorem logged_timed (outcome : Except Abort Report) (start : Program)
    (logged : Logged path place files clock left) :
    Logged path place files clock (timed start outcome left) :=
  logged_recorded _ logged

theorem logged_fatal (cause : Failure) (start : Program)
    (logged : Logged path place files clock left) :
    Logged path place files clock
      (recorded (fatalEntry cause) (timed start (.error (.failure cause)) left)) :=
  logged_recorded _ (logged_timed _ start logged)

theorem logged_broken (program : Program) (abort : Abort) (start : Program)
    (logged : Logged path place files clock left) :
    Logged path place files clock (broken program abort (timed start (.error abort) left)) :=
  logged_recorded _ (logged_timed _ start logged)

theorem logged_of_finished {document : Document} {output : Path} {tree : FileTree}
    (report : Report) (start : Program) (logged : Logged path place files clock ready)
    (saved : document.save plan.binary output ready.session.files = .ok () tree) :
    Logged path place tree clock (recordedAll (summary report output) (timed start (.ok report)
      (recorded (document.savedEntry output) (withFiles tree ready)))) :=
  logged_recorded_all _ (logged_timed (.ok report) start (logged_of_saved logged saved))

def logPath (plan : Plan) (program : Program) : Path :=
  plan.settings.logDirectory.child (Session.logName program.session.started)

/-- The log is open when the production starts, and nothing but the log was touched. -/
theorem logged_of_embarks (unopened : program.session.logging = {})
    (embarks : Embarks invocation program plan ready) :
    ∃ place, Logged (logPath plan program) place program.session.files program.now ready := by
  obtain ⟨options, plan, session, settles, opened⟩ := embarks
  obtain ⟨errors, same⟩ := settling_unheard invocation unopened
  have closed : (settling invocation program).session.logging.isOpen = false := by
    rw [same, Session.withErrors, unopened]
  obtain ⟨place, log, spared, clock⟩ := Session.open_log_ok closed opened
  rw [same] at log spared clock
  have started : Logged (logPath plan program) place program.session.files program.now
      { settling invocation program with session } := ⟨log, spared, clock⟩
  exact ⟨place, logged_recorded _ (logged_recorded_all _ started)⟩

end DebugRecovery.Program
