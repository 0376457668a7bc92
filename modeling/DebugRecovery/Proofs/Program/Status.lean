import DebugRecovery.Proofs.Program.Output

/-!
# The status of a run

A run has a status for help, misuse, bad settings, a failure of the production and
a saved output. All other ends are listed here as what escapes: a vacant argument,
a file that has to be seen and cannot be, a log that cannot be opened, and the ways
to miss a stage of the production that are not told as failures. A run ends with a
status exactly when nothing escapes.
-/

set_option autoImplicit false

namespace DebugRecovery.Program

open Source

variable {invocation : Invocation} {plan : Plan} {frontEnd : FrontEnd} {options : Options}
  {program later ready left : Program} {files : FileTree} {abort : Abort}

/-- The abort is a failure, which the run has a status for. -/
def IsFailure (abort : Abort) : Prop := ∃ cause, abort = .failure cause

theorem table_error {symbols : Option Path} (failed : QueryTable.load files symbols = .error abort) :
    IsFailure abort ∨ ∃ path, symbols = some path ∧ QueryTable.Escapes files path abort := by
  cases symbols with
  | none => contradiction
  | some path =>
      rcases QueryTable.load_configured_or_escape files path with
        configured | ⟨other, escapes, told⟩
      · rcases configured with ⟨table, finished⟩ | ⟨detail, told⟩
        · rw [finished] at failed
          contradiction
        · rw [told] at failed
          cases failed
          exact Or.inl ⟨_, rfl⟩
      · rw [told] at failed
        cases failed
        exact Or.inr ⟨path, rfl, escapes⟩

theorem image_error {path : Path} {place : Place} (there : files.locate path = .ok place)
    (failed : Image.load files path = .error abort) :
    IsFailure abort ∨ ∃ content, files.read path = .ok content ∧
      Image.read content = .error .unreachable ∧ abort = .offset := by
  unfold Image.load at failed
  split at failed
  · rename_i error unread
    cases failed
    rcases FileTree.read_error unread with ⟨marked, _⟩ | ⟨_, asked⟩
    · rw [FileTree.unmarked_of_located there] at marked
      contradiction
    · exact Or.inl ⟨_, Abort.of_file_failure_asked asked⟩
  · rename_i content opened
    unfold Image.ofBytes at failed
    split at failed
    · contradiction
    · cases failed
      exact Or.inl ⟨_, rfl⟩
    · rename_i unreachable
      cases failed
      exact Or.inr ⟨content, opened, unreachable, rfl⟩

/-- The diagnostic has no severity that there is, and all before it have one. -/
def Ungraded (unit : NativeUnit) (diagnostic : NativeDiagnostic) : Prop :=
  ∃ front back, unit.diagnostics = front ++ diagnostic :: back ∧
    (∀ earlier ∈ front, Severity.ofRank? earlier.severity ≠ none) ∧
    Severity.ofRank? diagnostic.severity = none

def ungradedAbort (diagnostic : NativeDiagnostic) : Abort :=
  .value s!"{diagnostic.severity} is not a valid DiagnosticSeverity"

theorem diagnostic_error_iff {native : NativeDiagnostic} :
    NativeUnit.diagnostic native = .error abort ↔
      Severity.ofRank? native.severity = none ∧ abort = ungradedAbort native := by
  unfold NativeUnit.diagnostic
  cases Severity.ofRank? native.severity with
  | none => simp [ungradedAbort, eq_comm]
  | some severity => simp

theorem graded_of_ok {native : NativeDiagnostic} {diagnostic : Diagnostic}
    (graded : NativeUnit.diagnostic native = .ok diagnostic) :
    Severity.ofRank? native.severity ≠ none := by
  intro ungraded
  rw [diagnostic_error_iff.mpr ⟨ungraded, rfl⟩] at graded
  contradiction

theorem each_graded {front : List NativeDiagnostic}
    (graded : ∀ earlier ∈ front, Severity.ofRank? earlier.severity ≠ none) :
    ∃ diagnostics, List.Forall₂
      (fun native diagnostic => NativeUnit.diagnostic native = .ok diagnostic) front
        diagnostics := by
  induction front with
  | nil => exact ⟨[], .nil⟩
  | cons native front induction =>
      obtain ⟨diagnostics, each⟩ := induction fun earlier member =>
        graded earlier (List.mem_cons_of_mem _ member)
      cases told : NativeUnit.diagnostic native with
      | ok diagnostic => exact ⟨diagnostic :: diagnostics, .cons told each⟩
      | error cause =>
          exact absurd (diagnostic_error_iff.mp told).1 (graded native List.mem_cons_self)

theorem report_error_iff {unit : NativeUnit} :
    unit.report = .error abort ↔
      ∃ diagnostic, Ungraded unit diagnostic ∧ abort = ungradedAbort diagnostic := by
  constructor
  · intro failed
    rcases except_bind_error failed with failed | ⟨_, _, failed⟩
    · obtain ⟨front, diagnostic, back, values, split, graded, ungraded⟩ := except_each_error failed
      obtain ⟨rank, told⟩ := diagnostic_error_iff.mp ungraded
      refine ⟨diagnostic, ⟨front, back, split, fun earlier member => ?_, rank⟩, told⟩
      obtain ⟨value, _, accepted⟩ := each_item graded member
      exact graded_of_ok accepted
    · contradiction
  · rintro ⟨diagnostic, ⟨front, back, split, graded, rank⟩, rfl⟩
    obtain ⟨diagnostics, each⟩ := each_graded graded
    have failed := except_each_error_iff.mpr ⟨front, diagnostic, back, diagnostics, split, each,
      diagnostic_error_iff.mpr ⟨rank, rfl⟩⟩
    rw [NativeUnit.report, failed]
    rfl

theorem parse_error {path : Path} (failed : frontEnd.parse path = .error abort) :
    IsFailure abort ∨ ∃ unit diagnostic, frontEnd = .parses unit ∧ Ungraded unit diagnostic ∧
      abort = ungradedAbort diagnostic := by
  cases frontEnd with
  | missing reason =>
      cases failed
      exact Or.inl ⟨_, rfl⟩
  | refuses reason =>
      cases failed
      exact Or.inl ⟨_, rfl⟩
  | parses unit =>
      obtain ⟨diagnostic, ungraded, told⟩ := report_error_iff.mp failed
      exact Or.inr ⟨unit, diagnostic, rfl, ungraded, told⟩

theorem type_defect_abort (defect : TypeDefect) :
    IsFailure defect.abort ∨ defect.abort = .endless := by
  cases defect with
  | endlessAlias spelling => exact Or.inr rfl
  | _ => exact Or.inl ⟨_, rfl⟩

theorem function_defect_abort (defect : FunctionDefect) :
    IsFailure defect.abort ∨ defect.abort = .endless := by
  cases defect with
  | type defect => exact type_defect_abort defect
  | _ => exact Or.inl ⟨_, rfl⟩

theorem struct_defect_abort (defect : StructDefect) :
    IsFailure defect.abort ∨ defect.abort = .endless := by
  cases defect with
  | member defect =>
      cases defect with
      | type defect => exact type_defect_abort defect
      | _ => exact Or.inl ⟨_, rfl⟩
  | _ => exact Or.inl ⟨_, rfl⟩

theorem stopped_abort {material : Material} {table : QueryTable} {document final : Document}
    {phase : Reconstruction.Phase}
    (stopped : Reconstruction.Stopped material table document phase abort final) :
    IsFailure abort ∨ abort = .endless := by
  cases stopped with
  | diagnostics first others errors => exact Or.inl ⟨_, rfl⟩
  | struct front declaration back layouts _ clean declarations built admitted refused =>
      cases refused with
      | defect defect unbuilt => exact struct_defect_abort defect
      | taken layout built taken => exact Or.inl ⟨_, rfl⟩
  | prototype layouts defect laidOut failed => exact function_defect_abort defect
  | global layouts registered functions defect laidOut declared placed failed =>
      exact type_defect_abort defect

/-- What ends a production, and is no failure: a table that is not UTF-8 or goes beyond the limits of
its reader, an image with a table beyond all positions, a diagnostic of no severity, a type that is an
alias of itself or too deep, and an output that is vacant, has no name, has a zero in its path, or has
too much above it or in it for the stack. -/
inductive Breaks (frontEnd : FrontEnd) (plan : Plan) (program : Program) : Abort → Prop where
  | table (path : Path) (abort : Abort) (given : plan.settings.symbols = some path)
      (escapes : QueryTable.Escapes program.session.files path abort) :
      Breaks frontEnd plan program abort
  | offset (table : QueryTable) (content : ByteArray)
      (tabulated : QueryTable.load program.session.files plan.settings.symbols = .ok table)
      (opened : (opening plan program).session.files.read plan.binary = .ok content)
      (unreachable : Image.read content = .error .unreachable) :
      Breaks frontEnd plan program .offset
  | severity (table : QueryTable) (image : Image) (unit : NativeUnit)
      (diagnostic : NativeDiagnostic)
      (tabulated : QueryTable.load program.session.files plan.settings.symbols = .ok table)
      (read : Image.load (opening plan program).session.files plan.binary = .ok image)
      (parses : frontEnd = .parses unit) (ungraded : Ungraded unit diagnostic) :
      Breaks frontEnd plan program (ungradedAbort diagnostic)
  | endless (table : QueryTable) (image : Image) (source : SourceFile) (left : Reconstruction)
      (loaded : Loaded frontEnd plan program table image source)
      (failed : Reconstruction.run (gathered frontEnd plan program image source) table
        (blank image (parsed frontEnd plan program image).now) = .error .endless left) :
      Breaks frontEnd plan program .endless
  | vacant (report : Report) (document : Document) (ready : Program)
      (rebuilds : Rebuilds frontEnd plan program report document ready)
      (failed : plan.output = .error (.vacant .directory)) :
      Breaks frontEnd plan program (.vacant .directory)
  | nameless (report : Report) (document : Document) (ready : Program) (detail : String)
      (rebuilds : Rebuilds frontEnd plan program report document ready)
      (failed : plan.output = .error (.value detail)) :
      Breaks frontEnd plan program (.value detail)
  | zero (report : Report) (document : Document) (ready : Program) (output : Path)
      (files : FileTree) (rebuilds : Rebuilds frontEnd plan program report document ready)
      (named : plan.output = .ok output) (marked : output.hasZero = true)
      (failed : document.save plan.binary output ready.session.files =
        .error (.value "embedded null byte") files) :
      Breaks frontEnd plan program (.value "embedded null byte")
  | deep (report : Report) (document : Document) (ready : Program) (output : Path)
      (files : FileTree) (rebuilds : Rebuilds frontEnd plan program report document ready)
      (named : plan.output = .ok output)
      (failed : document.save plan.binary output ready.session.files = .error .endless files) :
      Breaks frontEnd plan program .endless

/-- What ends a run without a status: an argument that is vacant or a file that cannot be seen while
the settings are settled, a log that cannot be opened, and what ends a production and is no
failure. -/
inductive Escapes (invocation : Invocation) (program : Program) : Abort → Prop where
  | vacant (options : Options) (need : Need)
      (planned : Planned invocation program.session.files options (.error (.vacant need)))
      (lacking : HasVacant options) : Escapes invocation program (.vacant need)
  | unseen (options : Options) (error : FileError)
      (planned : Planned invocation program.session.files options (.error (.file error)))
      (unseen : Unseen program.session.files error) : Escapes invocation program (.file error)
  | unlogged (options : Options) (plan : Plan) (error : FileError)
      (planned : Planned invocation program.session.files options (.ok plan))
      (refused : Session.LogRefused program.session.files plan.settings.logDirectory
        program.session.started error) :
      Escapes invocation program (.ofFileError error)
  | production (plan : Plan) (ready : Program) (abort : Abort)
      (embarks : Embarks invocation program plan ready)
      (breaks : Breaks invocation.frontEnd plan ready abort) : Escapes invocation program abort

/-- The status that a run comes to: success when help was asked for or the output was saved, misuse
for a command line that cannot be read, and failure for bad settings or a failed production. -/
inductive Earns (invocation : Invocation) (program : Program) : ExitStatus → Prop where
  | help (asked : Options.ofTokens invocation.tokens = .error .help) :
      Earns invocation program .success
  | misuse (misuse : Options.Misuse)
      (asked : Options.ofTokens invocation.tokens = .error (.misuse misuse)) :
      Earns invocation program .misuse
  | configuration (options : Options) (abort : Abort)
      (planned : Planned invocation program.session.files options (.error abort))
      (bad : abort.isBadValue = true) : Earns invocation program .failure
  | fatal (plan : Plan) (ready left : Program) (cause : Failure)
      (embarks : Embarks invocation program plan ready)
      (produces : Produces invocation.frontEnd plan ready (.error (.failure cause)) left) :
      Earns invocation program .failure
  | saved (plan : Plan) (ready left : Program) (report : Report)
      (embarks : Embarks invocation program plan ready)
      (produces : Produces invocation.frontEnd plan ready (.ok report) left) :
      Earns invocation program .success

theorem break_not_failure (breaks : Breaks frontEnd plan program abort) : ¬ IsFailure abort := by
  rintro ⟨cause, rfl⟩
  cases breaks with
  | table path _ given escapes => exact QueryTable.escape_not_failure escapes cause rfl

/-- What breaks a production ends it. -/
theorem produces_of_breaks (breaks : Breaks frontEnd plan program abort) :
    ∃ later, Produces frontEnd plan program (.error abort) later := by
  cases breaks with
  | table path abort given escapes =>
      have failed := QueryTable.load_of_escape escapes
      rw [← given] at failed
      exact ⟨_, .table _ failed⟩
  | offset table content tabulated opened unreachable =>
      have failed : Image.load (opening plan program).session.files plan.binary =
          .error .offset := by
        simp only [Image.load, opened, Image.ofBytes, unreachable]
      exact ⟨_, .image table _ tabulated failed⟩
  | severity table image unit diagnostic tabulated read parses ungraded =>
      have failed : frontEnd.parse plan.source = .error (ungradedAbort diagnostic) := by
        rw [parses]
        exact report_error_iff.mpr ⟨diagnostic, ungraded, rfl⟩
      exact ⟨_, .source table image _ tabulated read failed⟩
  | endless table image source left loaded failed =>
      exact ⟨_, .reconstruction table image source _ left loaded failed⟩
  | vacant report document ready rebuilds failed =>
      exact ⟨_, .output report document ready _ rebuilds failed⟩
  | nameless report document ready detail rebuilds failed =>
      exact ⟨_, .output report document ready _ rebuilds failed⟩
  | zero report document ready output files rebuilds named marked failed =>
      exact ⟨_, .save report document ready output _ files rebuilds named failed⟩
  | deep report document ready output files rebuilds named failed =>
      exact ⟨_, .save report document ready output _ files rebuilds named failed⟩

/-- A production by a plan that ends, and not with a failure, has been broken. -/
theorem breaks_of_produces {place : Place} {path : Path} {clock : Instant}
    (settled : Settled files options plan) (logged : Logged path place files clock program)
    (produces : Produces frontEnd plan program (.error abort) later)
    (other : ¬ IsFailure abort) : Breaks frontEnd plan program abort := by
  cases produces with
  | table abort failed =>
      rcases table_error failed with failure | ⟨path, given, escapes⟩
      · exact absurd failure other
      · exact .table path abort given escapes
  | image table abort tabulated failed =>
      obtain ⟨_, there, located, _⟩ := (FileTree.is_file_iff _ _).mp settled.binary
      have reached := FileTree.locate_spared (logged_opening plan logged).files located
      rcases image_error reached failed with failure | ⟨content, opened, unreachable, rfl⟩
      · exact absurd failure other
      · exact .offset table content tabulated opened unreachable
  | source table image abort tabulated read failed =>
      rcases parse_error failed with failure | ⟨unit, diagnostic, parses, ungraded, rfl⟩
      · exact absurd failure other
      · exact .severity table image unit diagnostic tabulated read parses ungraded
  | reconstruction table image source abort left loaded failed =>
      obtain ⟨phase, stopped⟩ := Reconstruction.run_stopped failed
      rcases stopped_abort stopped with failure | rfl
      · exact absurd failure other
      · exact .endless table image source left loaded failed
  | output report document ready abort rebuilds failed =>
      rcases settled.output abort failed with ⟨_, rfl⟩ | ⟨detail, rfl⟩
      · exact .vacant report document _ rebuilds failed
      · exact .nameless report document _ detail rebuilds failed
  | save report document ready output abort tree rebuilds named failed =>
      obtain ⟨_, there, located, _⟩ := (FileTree.is_file_iff _ _).mp settled.binary
      have reached := FileTree.locate_spared (logged_of_rebuilds logged rebuilds).files located
      rcases Document.save_error reached failed with failure | ⟨marked, rfl⟩ | rfl
      · exact absurd failure other
      · exact .zero report document ready output tree rebuilds named marked failed
      · exact .deep report document ready output tree rebuilds named failed

theorem earns_of_runs {status : ExitStatus} (unopened : program.session.logging = {})
    (runs : Runs invocation program (.ok status) later) : Earns invocation program status := by
  cases runs with
  | help asked => exact .help asked
  | misuse misuse asked => exact .misuse misuse asked
  | unsettled options abort settles bad =>
      exact .configuration options abort ((settles_iff unopened).mp settles) bad
  | fatal plan ready left cause embarks produces =>
      exact .fatal plan ready left cause embarks produces
  | finished plan ready left report output embarks produces named =>
      exact .saved plan ready left report embarks produces

theorem runs_of_earns {status : ExitStatus} (unopened : program.session.logging = {})
    (earns : Earns invocation program status) :
    ∃ later, Runs invocation program (.ok status) later := by
  cases earns with
  | help asked => exact ⟨_, .help asked⟩
  | misuse misuse asked => exact ⟨_, .misuse misuse asked⟩
  | configuration options abort planned bad =>
      exact ⟨_, .unsettled options abort ((settles_iff unopened).mpr planned) bad⟩
  | fatal plan ready left cause embarks produces =>
      exact ⟨_, .fatal plan ready left cause embarks produces⟩
  | saved plan ready left report embarks produces =>
      obtain ⟨output, named⟩ := produces_output produces
      exact ⟨_, .finished plan ready left report output embarks produces named⟩

theorem escapes_of_runs (unopened : program.session.logging = {})
    (runs : Runs invocation program (.error abort) later) : Escapes invocation program abort := by
  cases runs with
  | uncaught options abort settles other =>
      have planned := (settles_iff unopened).mp settles
      have unsettling := plan_error (fun _ failed => load_error failed) planned.plan
      cases unsettling with
      | unmade _ unmade =>
          cases unmade with
          | bad _ bad =>
              rw [bad] at other
              contradiction
          | unseen error unseen => exact .unseen options error planned unseen
      | vacant need lacking => exact .vacant options need planned lacking
  | unlogged options plan error session settles failed =>
      obtain ⟨errors, same⟩ := settling_unheard invocation unopened
      have closed : (settling invocation program).session.logging.isOpen = false := by
        rw [same, Session.withErrors, unopened]
      have refused := (Session.open_log_error_iff closed).mp ⟨session, failed⟩
      rw [same] at refused
      exact .unlogged options plan error ((settles_iff unopened).mp settles) refused
  | broken plan ready left abort embarks produces other =>
      obtain ⟨options, planned⟩ := planned_of_embarks unopened embarks
      obtain ⟨place, logged⟩ := logged_of_embarks unopened embarks
      have caught : ¬ IsFailure abort := by
        rintro ⟨cause, same⟩
        exact other cause same
      exact .production plan ready abort embarks
        (breaks_of_produces (plan_ok planned.plan) logged produces caught)

theorem runs_of_escapes (unopened : program.session.logging = {})
    (escapes : Escapes invocation program abort) :
    ∃ later, Runs invocation program (.error abort) later := by
  cases escapes with
  | vacant options need planned lacking =>
      exact ⟨_, .uncaught options _ ((settles_iff unopened).mpr planned) rfl⟩
  | unseen options error planned unseen =>
      exact ⟨_, .uncaught options _ ((settles_iff unopened).mpr planned) rfl⟩
  | unlogged options plan error planned refused =>
      obtain ⟨errors, same⟩ := settling_unheard invocation unopened
      have closed : (settling invocation program).session.logging.isOpen = false := by
        rw [same, Session.withErrors, unopened]
      have refused : Session.LogRefused (settling invocation program).session.files
          plan.settings.logDirectory (settling invocation program).session.started error := by
        rwa [same]
      obtain ⟨session, failed⟩ :=
        (@Session.open_log_error_iff _ _ plan.settings.verbose closed _).mpr refused
      exact ⟨_, .unlogged options plan error session ((settles_iff unopened).mpr planned) failed⟩
  | production plan ready abort embarks breaks =>
      obtain ⟨left, produces⟩ := produces_of_breaks breaks
      have other : ∀ cause, abort ≠ .failure cause := fun cause same =>
        break_not_failure breaks ⟨cause, same⟩
      exact ⟨_, .broken plan ready left abort embarks produces other⟩

/-- A run comes to the status that it earns, and it comes to one exactly when nothing escapes. -/
theorem status_earned_unless_escaping (unopened : program.session.logging = {}) :
    (∀ status, (∃ later, run invocation program = .ok status later) ↔
      Earns invocation program status) ∧
    ((∃ status later, run invocation program = .ok status later) ↔
      ∀ abort, ¬ Escapes invocation program abort) := by
  have earned : ∀ status, (∃ later, run invocation program = .ok status later) ↔
      Earns invocation program status := by
    intro status
    constructor
    · rintro ⟨later, ended⟩
      exact earns_of_runs unopened (run_iff.mp ended)
    · intro earns
      obtain ⟨later, runs⟩ := runs_of_earns unopened earns
      exact ⟨later, run_of_runs runs⟩
  refine ⟨earned, ?_⟩
  constructor
  · rintro ⟨status, later, ended⟩ abort escapes
    obtain ⟨left, runs⟩ := runs_of_escapes unopened escapes
    rw [run_of_runs runs] at ended
    contradiction
  · intro caught
    obtain ⟨outcome, later, runs⟩ := runs_some_way invocation program
    cases outcome with
    | ok status => exact ⟨status, later, run_of_runs runs⟩
    | error abort => exact absurd (escapes_of_runs unopened runs) (caught abort)

theorem header_only_earns_success :
    (∃ later, run (invocationTo "out") (startWith headerOnly noEnd) = .ok .success later) ∧
      Earns (invocationTo "out") (startWith headerOnly noEnd) .success ∧
      ∀ abort, ¬ Escapes (invocationTo "out") (startWith headerOnly noEnd) abort := by
  obtain ⟨later, runs, _⟩ := header_only_finishes (.inl rfl)
  have ended : ∃ later, run (invocationTo "out") (startWith headerOnly noEnd) =
      .ok .success later :=
    ⟨later, run_of_runs runs⟩
  obtain ⟨earned, reached⟩ :=
    @status_earned_unless_escaping (invocationTo "out") (startWith headerOnly noEnd) rfl
  exact ⟨ended, (earned _).mp ended, reached.mp ⟨_, ended⟩⟩

def tableInvocation : Invocation :=
  ⟨"reconstruct", ["a.bin", "a.c", "-c", "table", "-o", "out"], [], .parses ⟨[], []⟩⟩

def tablePlan : Plan :=
  ⟨{ (planTo "out").settings with symbols := some (pathIn "table") }, pathIn "a.bin", pathIn "a.c",
    .ok (pathIn "out")⟩

def misplacedInvocation : Invocation :=
  { invocationTo "out" with environment := [("LOG_DIR", "a.c")] }

def misplacedPlan : Plan :=
  { planTo "out" with settings := { (planTo "out").settings with logDirectory := pathIn "a.c" } }

def faultAtStart : Text.Utf8.Fault := ⟨.startByte, 0xFF, 0, 1⟩

theorem table_escapes :
    Escapes tableInvocation (startWith headerOnly noEnd) (.encoding faultAtStart) := by
  let options := { optionsTo "out" with symbols := some (.filled (pathIn "table")) }
  have asked : Options.ofTokens tableInvocation.tokens = .ok options := rfl
  have configured : Settings.ofEnvironment [] = .ok {} := rfl
  have told : given options =
      .ok { binary := some (pathIn "a.bin"), source := some (pathIn "a.c"),
            symbols := some (pathIn "table"), output := some (pathIn "out") } := rfl
  have full : ¬ HasVacant options := by simp [HasVacant, optionsTo, options]
  have planned : Planned tableInvocation (filesWith headerOnly noEnd) options (.ok tablePlan) :=
    plain_planned asked configured told full rfl rfl (by simp [Settings.override])
  have usual : tablePlan.settings.logDirectory = pathIn "logs" := rfl
  have faulty : Text.Utf8.decode ⟨#[0xFF]⟩ = .error faultAtStart := by decide +kernel
  have located : (filesWith headerOnly noEnd).locate (pathIn "table") = .ok ["table"] :=
    plain_located (by simp) (FileTree.spares_refl (fun _ => False) _)
  have there : (filesWith headerOnly noEnd).read (pathIn "table") = .ok ⟨#[0xFF]⟩ :=
    (FileTree.read_ok_iff _ _ _).mpr ⟨_, located, rfl, .inl rfl⟩
  obtain ⟨ready, embarks⟩ := logging_plan_embarks planned usual
  obtain ⟨place, logged⟩ := logged_of_embarks rfl embarks
  have opened := FileTree.read_spared logged.files
    (FileTree.avoids_of_located located (plain_log_apart logged (by decide))) there
  exact .production tablePlan ready _ embarks
    (.table (pathIn "table") _ rfl (.encoding _ _ opened faulty))

theorem misplaced_log_escapes :
    Escapes misplacedInvocation (startWith headerOnly noEnd)
      (.file ⟨.exists, pathIn "a.c"⟩) := by
  have asked : Options.ofTokens misplacedInvocation.tokens = .ok (optionsTo "out") := rfl
  have configured : Settings.ofEnvironment misplacedInvocation.environment =
      .ok { logDirectory := pathIn "a.c" } := rfl
  have told : given (optionsTo "out") =
      .ok { binary := some (pathIn "a.bin"), source := some (pathIn "a.c"),
            output := some (pathIn "out") } := rfl
  have full : ¬ HasVacant (optionsTo "out") := by simp [HasVacant, optionsTo]
  have planned : Planned misplacedInvocation (filesWith headerOnly noEnd) (optionsTo "out")
      (.ok misplacedPlan) :=
    plain_planned asked configured told full rfl rfl (by simp [Settings.override])
  have located : (filesWith headerOnly noEnd).locate (pathIn "a.c") = .ok ["a.c"] :=
    plain_located (by simp) (FileTree.spares_refl (fun _ => False) _)
  have unmade : FileTree.makeDirectories (pathIn "a.c") (filesWith headerOnly noEnd) =
      .error ⟨.exists, pathIn "a.c"⟩ (filesWith headerOnly noEnd) :=
    FileTree.make_directories_at_failed (FileTree.ensure_directory_taken located rfl) (by simp)
  exact .unlogged (optionsTo "out") misplacedPlan ⟨.exists, pathIn "a.c"⟩ planned
    (.directory _ unmade)

theorem runs_end_without_status :
    (∃ later, run tableInvocation (startWith headerOnly noEnd) =
      .error (.encoding faultAtStart) later) ∧
    (∃ later, run misplacedInvocation (startWith headerOnly noEnd) =
      .error (.file ⟨.exists, pathIn "a.c"⟩) later) ∧
    ¬ ∃ status later,
      run tableInvocation (startWith headerOnly noEnd) = .ok status later := by
  obtain ⟨left, unread⟩ := runs_of_escapes rfl table_escapes
  obtain ⟨later, unlogged⟩ := runs_of_escapes rfl misplaced_log_escapes
  refine ⟨⟨left, run_of_runs unread⟩, ⟨later, run_of_runs unlogged⟩, ?_⟩
  rintro ⟨status, other, ended⟩
  rw [run_of_runs unread] at ended
  contradiction

end DebugRecovery.Program
