import DebugRecovery.Program

/-!
# How a run goes

Every step of a run has an outcome that its inputs tell, and leaves a state that
the states before it tell. The ways through the stages are listed once, for the
production of the output and for the run around it: each list has the way that
the run goes, and the run goes every way on it.
-/

set_option autoImplicit false

namespace DebugRecovery.Program

open Source

variable {Value Other : Type}

section Steps

variable {program later final : Program}

/-- What a step comes to when it has an outcome and leaves a state. -/
def result (outcome : Except Abort Value) (later : Program) :
    EStateM.Result Abort Program Value :=
  match outcome with
  | .ok value => .ok value later
  | .error abort => .error abort later

theorem result_injective {outcome other : Except Abort Value}
    (same : result outcome later = result other final) : outcome = other ∧ later = final := by
  cases outcome <;> cases other <;> cases same <;> exact ⟨rfl, rfl⟩

theorem bind_of_ok {action : Step Other} {next : Other → Step Value} {value : Other}
    (ran : action program = result (.ok value) later) :
    (action >>= next) program = next value later := by
  change EStateM.bind action next program = _
  simp only [EStateM.bind, ran, result]

theorem bind_of_error {action : Step Other} {next : Other → Step Value} {abort : Abort}
    (ran : action program = result (.error abort) later) :
    (action >>= next) program = result (.error abort) later := by
  change EStateM.bind action next program = _
  simp only [EStateM.bind, ran, result]

theorem demand_eq (outcome : Except Abort Value) (program : Program) :
    demand outcome program = result outcome program := by
  cases outcome <;> rfl

theorem demand_of_eq {demanded outcome : Except Abort Value} (same : demanded = outcome) :
    demand demanded program = result outcome program := by
  rw [demand_eq, same]

def recordedAll (journal : Journal) (program : Program) : Program :=
  { program with session := program.session.recordAll journal }

end Steps

section Production

variable (frontEnd : FrontEnd) (plan : Plan) (program : Program)

def tabled : Program :=
  recordedAll (QueryTable.loadJournal program.session.files plan.settings.symbols) program

/-- The binary is read in this state. -/
def opening : Program := recorded (Image.readingEntry plan.binary) (tabled plan program)

def imaged : Program :=
  recordedAll (Image.outcomeNotes (Image.load (opening plan program).session.files plan.binary))
    (opening plan program)

def parsed (image : Image) : Program :=
  let told := recordedAll
    (frontEnd.parseJournal plan.source plan.settings.options image.is64) (imaged plan program)
  { told with
    calls := told.calls ++ frontEnd.calls plan.source plan.settings.options image.is64 }

/-- What the reconstruction works from. -/
def gathered (image : Image) (source : SourceFile) : Material :=
  material (parsed frontEnd plan program image).session.files.limits image source

/-- The reconstruction at its start. -/
def blank (image : Image) (now : Instant) : Reconstruction :=
  .ofDocument { is64 := image.is64, imageBase := image.imageBase } now

def rebuilt (image : Image) (left : Reconstruction) : Program :=
  recordedAll left.journal (parsed frontEnd plan program image)

def withFiles (files : FileTree) (program : Program) : Program :=
  { program with session := { program.session with files } }

theorem load_symbols_eq :
    loadSymbols plan.settings.symbols program =
      result (QueryTable.load program.session.files plan.settings.symbols)
        (tabled plan program) := by
  rw [← demand_eq]
  rfl

theorem load_image_eq :
    loadImage plan.binary (tabled plan program) =
      result (Image.load (opening plan program).session.files plan.binary)
        (imaged plan program) := by
  rw [← demand_eq]
  rfl

theorem parse_eq (image : Image) :
    parse frontEnd plan.source plan.settings.options image.is64 (imaged plan program) =
      result (frontEnd.parse plan.source) (parsed frontEnd plan program image) := by
  rw [← demand_eq]
  rfl

theorem files_eq (program : Program) : files program = result (.ok program.session.files) program :=
  rfl

/-- Table, image and source were loaded. -/
structure Loaded (table : QueryTable) (image : Image) (source : SourceFile) : Prop where
  table : QueryTable.load program.session.files plan.settings.symbols = .ok table
  image : Image.load (opening plan program).session.files plan.binary = .ok image
  source : frontEnd.parse plan.source = .ok source

/-- What was loaded was reconstructed, with this report and document. -/
inductive Rebuilds : Report → Document → Program → Prop where
  | intro (table : QueryTable) (image : Image) (source : SourceFile) (report : Report)
      (left : Reconstruction) (loaded : Loaded frontEnd plan program table image source)
      (ran : Reconstruction.run (gathered frontEnd plan program image source) table
        (blank image (parsed frontEnd plan program image).now) = .ok report left) :
      Rebuilds report left.document (rebuilt frontEnd plan program image left)

/-- The ways to produce the output: the stages that are passed, and how the last one ends. -/
inductive Produces : Except Abort Report → Program → Prop where
  | table (abort : Abort)
      (failed : QueryTable.load program.session.files plan.settings.symbols = .error abort) :
      Produces (.error abort) (tabled plan program)
  | image (table : QueryTable) (abort : Abort)
      (tabulated : QueryTable.load program.session.files plan.settings.symbols = .ok table)
      (failed : Image.load (opening plan program).session.files plan.binary = .error abort) :
      Produces (.error abort) (imaged plan program)
  | source (table : QueryTable) (image : Image) (abort : Abort)
      (tabulated : QueryTable.load program.session.files plan.settings.symbols = .ok table)
      (read : Image.load (opening plan program).session.files plan.binary = .ok image)
      (failed : frontEnd.parse plan.source = .error abort) :
      Produces (.error abort) (parsed frontEnd plan program image)
  | reconstruction (table : QueryTable) (image : Image) (source : SourceFile) (abort : Abort)
      (left : Reconstruction) (loaded : Loaded frontEnd plan program table image source)
      (failed : Reconstruction.run (gathered frontEnd plan program image source) table
        (blank image (parsed frontEnd plan program image).now) = .error abort left) :
      Produces (.error abort) (rebuilt frontEnd plan program image left)
  | output (report : Report) (document : Document) (ready : Program) (abort : Abort)
      (rebuilds : Rebuilds frontEnd plan program report document ready)
      (failed : plan.output = .error abort) : Produces (.error abort) ready
  | save (report : Report) (document : Document) (ready : Program) (output : Path) (abort : Abort)
      (files : FileTree) (rebuilds : Rebuilds frontEnd plan program report document ready)
      (named : plan.output = .ok output)
      (failed : document.save plan.binary output ready.session.files = .error abort files) :
      Produces (.error abort) (withFiles files ready)
  | saved (report : Report) (document : Document) (ready : Program) (output : Path)
      (files : FileTree) (rebuilds : Rebuilds frontEnd plan program report document ready)
      (named : plan.output = .ok output)
      (saved : document.save plan.binary output ready.session.files = .ok () files) :
      Produces (.ok report) (recorded (document.savedEntry output) (withFiles files ready))

variable {frontEnd plan program} {later : Program}

/-- The stages after the reconstruction. -/
def conclude (plan : Plan) (rebuilt : Report × Document) : Step Report := do
  let output ← demand plan.output
  save rebuilt.2 plan.binary output
  return rebuilt.1

theorem produce_of_rebuilds {report : Report} {document : Document} {ready : Program}
    (rebuilds : Rebuilds frontEnd plan program report document ready) :
    produce frontEnd plan program = conclude plan (report, document) ready := by
  obtain ⟨table, image, source, report, left, loaded, ran⟩ := rebuilds
  have tabulated := load_symbols_eq plan program
  have read := load_image_eq plan program
  have understood := parse_eq frontEnd plan program image
  rw [loaded.table] at tabulated
  rw [loaded.image] at read
  rw [loaded.source] at understood
  have done : rebuild (gathered frontEnd plan program image source) table
      { is64 := image.is64, imageBase := image.imageBase } (parsed frontEnd plan program image) =
        result (.ok (report, left.document)) (rebuilt frontEnd plan program image left) := by
    unfold blank at ran
    simp only [rebuild, ran, result]
    rfl
  have concluded : (rebuild (gathered frontEnd plan program image source) table
      { is64 := image.is64, imageBase := image.imageBase } >>= conclude plan)
        (parsed frontEnd plan program image) =
      conclude plan (report, left.document) (rebuilt frontEnd plan program image left) :=
    bind_of_ok done
  refine (bind_of_ok tabulated).trans ?_
  refine (bind_of_ok read).trans ?_
  refine (bind_of_ok understood).trans ?_
  exact (bind_of_ok (files_eq _)).trans concluded

theorem produce_of_produces {outcome : Except Abort Report}
    (produces : Produces frontEnd plan program outcome later) :
    produce frontEnd plan program = result outcome later := by
  have tabulating := load_symbols_eq plan program
  have reading := load_image_eq plan program
  cases produces with
  | table abort failed =>
      rw [failed] at tabulating
      exact bind_of_error tabulating
  | image table abort tabulated failed =>
      rw [tabulated] at tabulating
      rw [failed] at reading
      exact (bind_of_ok tabulating).trans (bind_of_error reading)
  | source table image abort tabulated read failed =>
      have parsing := parse_eq frontEnd plan program image
      rw [tabulated] at tabulating
      rw [read] at reading
      rw [failed] at parsing
      refine (bind_of_ok tabulating).trans ?_
      exact (bind_of_ok reading).trans (bind_of_error parsing)
  | reconstruction table image source abort left loaded failed =>
      have parsing := parse_eq frontEnd plan program image
      rw [loaded.table] at tabulating
      rw [loaded.image] at reading
      rw [loaded.source] at parsing
      have stopped : rebuild (gathered frontEnd plan program image source) table
          { is64 := image.is64, imageBase := image.imageBase }
          (parsed frontEnd plan program image) =
            result (.error abort) (rebuilt frontEnd plan program image left) := by
        unfold blank at failed
        simp only [rebuild, failed, result]
        rfl
      refine (bind_of_ok tabulating).trans ?_
      refine (bind_of_ok reading).trans ?_
      refine (bind_of_ok parsing).trans ?_
      exact (bind_of_ok (files_eq _)).trans (bind_of_error stopped)
  | output report document ready abort rebuilds failed =>
      exact (produce_of_rebuilds rebuilds).trans (bind_of_error (demand_of_eq failed))
  | save report document ready output abort files rebuilds named failed =>
      have unsaved : save document plan.binary output ready =
          result (.error abort) (withFiles files ready) := by
        simp only [save, failed, result]
        rfl
      refine (produce_of_rebuilds rebuilds).trans ?_
      refine (bind_of_ok (demand_of_eq named)).trans ?_
      exact bind_of_error unsaved
  | saved report document ready output files rebuilds named saved =>
      have kept : save document plan.binary output ready =
          result (.ok ()) (recorded (document.savedEntry output) (withFiles files ready)) := by
        simp only [save, saved, result]
        rfl
      refine (produce_of_rebuilds rebuilds).trans ?_
      refine (bind_of_ok (demand_of_eq named)).trans ?_
      exact bind_of_ok kept

theorem produces_of_rebuilds {report : Report} {document : Document} {ready : Program}
    (rebuilds : Rebuilds frontEnd plan program report document ready) :
    ∃ outcome later, Produces frontEnd plan program outcome later := by
  cases named : plan.output with
  | error abort => exact ⟨_, _, .output report document ready abort rebuilds named⟩
  | ok output =>
      cases saved : document.save plan.binary output ready.session.files with
      | error abort files =>
          exact ⟨_, _, .save report document ready output abort files rebuilds named saved⟩
      | ok done files =>
          exact ⟨_, _, .saved report document ready output files rebuilds named saved⟩

theorem produces_some_way (frontEnd : FrontEnd) (plan : Plan) (program : Program) :
    ∃ outcome later, Produces frontEnd plan program outcome later := by
  cases tabulated : QueryTable.load program.session.files plan.settings.symbols with
  | error abort => exact ⟨_, _, .table abort tabulated⟩
  | ok table =>
      cases read : Image.load (opening plan program).session.files plan.binary with
      | error abort => exact ⟨_, _, .image table abort tabulated read⟩
      | ok image =>
          cases understood : frontEnd.parse plan.source with
          | error abort => exact ⟨_, _, .source table image abort tabulated read understood⟩
          | ok source =>
              have loaded : Loaded frontEnd plan program table image source :=
                ⟨tabulated, read, understood⟩
              cases ran : Reconstruction.run (gathered frontEnd plan program image source) table
                  (blank image (parsed frontEnd plan program image).now) with
              | error abort left =>
                  exact ⟨_, _, .reconstruction table image source abort left loaded ran⟩
              | ok report left =>
                  exact produces_of_rebuilds (.intro table image source report left loaded ran)

end Production

section Run

variable (invocation : Invocation) (plan : Plan) (program : Program)

def begun : Program := recorded activity.startedEntry program

def loading : Settings.Loading :=
  Settings.loadDefault (begun program).session.files invocation.environment

def settling : Program := recordedAll (loading invocation program).journal (begun program)

/-- The production starts in this state. -/
def embarked (session : Session) : Program :=
  recorded reconstruction.startedEntry
    (recordedAll (planJournal plan) { settling invocation program with session })

def timedEntry (outcome : Except Abort Report) (start stop : Instant) : Entry :=
  match outcome with
  | .ok _ => reconstruction.completedEntry start stop
  | .error abort => reconstruction.failedEntry start stop abort.message

/-- What is left when the production, which started in one state, ended in another. -/
def timed (ready : Program) (outcome : Except Abort Report) (left : Program) : Program :=
  recorded (timedEntry outcome ready.now left.now) left

def printed (text : String) (program : Program) : Program :=
  { program with session := program.session.print text }

def printedError (text : String) (program : Program) : Program :=
  { program with session := program.session.printError text }

/-- What is left when the run, which started in one state, ended without a status in another. -/
def broken (abort : Abort) (left : Program) : Program :=
  recorded (activity.failedEntry (now program) left.now abort.message) left

/-- The options and settings of the run come to an outcome. -/
structure Settles (options : Options) (outcome : Except Abort Plan) : Prop where
  asked : Options.ofTokens invocation.tokens = .ok options
  plan : Program.plan (begun program).session.files options (loading invocation program).settings =
    outcome

/-- By the plan the run starts the production in the state. -/
inductive Embarks : Plan → Program → Prop where
  | intro (options : Options) (plan : Plan) (session : Session)
      (settles : Settles invocation program options (.ok plan))
      (opened : Session.openLog plan.settings.logDirectory plan.settings.verbose
        (settling invocation program).session = .ok () session) :
      Embarks plan (embarked invocation plan program session)

/-- The ways through a run: the stages that are passed, and how the last one ends. -/
inductive Runs : Except Abort ExitStatus → Program → Prop where
  | help (asked : Options.ofTokens invocation.tokens = .error .help) :
      Runs (.ok .success) (printed (Options.help invocation.program) (begun program))
  | misuse (misuse : Options.Misuse)
      (asked : Options.ofTokens invocation.tokens = .error (.misuse misuse)) :
      Runs (.ok .misuse)
        (printedError (Options.misuseText invocation.program misuse) (begun program))
  | unsettled (options : Options) (abort : Abort)
      (settles : Settles invocation program options (.error abort))
      (bad : abort.isBadValue = true) :
      Runs (.ok .failure) (printedError s!"Configuration error: {abort.message}\n"
        (settling invocation program))
  | uncaught (options : Options) (abort : Abort)
      (settles : Settles invocation program options (.error abort))
      (other : abort.isBadValue = false) :
      Runs (.error abort) (broken program abort (settling invocation program))
  | unlogged (options : Options) (plan : Plan) (error : FileError) (session : Session)
      (settles : Settles invocation program options (.ok plan))
      (refused : Session.openLog plan.settings.logDirectory plan.settings.verbose
        (settling invocation program).session = .error error session) :
      Runs (.error (.ofFileError error)) (broken program (.ofFileError error)
        { settling invocation program with session })
  | fatal (plan : Plan) (ready left : Program) (cause : Failure)
      (embarks : Embarks invocation program plan ready)
      (produces : Produces invocation.frontEnd plan ready (.error (.failure cause)) left) :
      Runs (.ok .failure)
        (recorded (fatalEntry cause) (timed ready (.error (.failure cause)) left))
  | broken (plan : Plan) (ready left : Program) (abort : Abort)
      (embarks : Embarks invocation program plan ready)
      (produces : Produces invocation.frontEnd plan ready (.error abort) left)
      (other : ∀ cause, abort ≠ .failure cause) :
      Runs (.error abort) (broken program abort (timed ready (.error abort) left))
  | finished (plan : Plan) (ready left : Program) (report : Report) (output : Path)
      (embarks : Embarks invocation program plan ready)
      (produces : Produces invocation.frontEnd plan ready (.ok report) left)
      (named : plan.output = .ok output) :
      Runs (.ok .success)
        (recordedAll (summary report output) (timed ready (.ok report) left))

variable {invocation plan program} {later : Program}

theorem produce_timed_of_produces {frontEnd : FrontEnd} {outcome : Except Abort Report}
    {left : Program}
    (produces : Produces frontEnd plan (recorded reconstruction.startedEntry program) outcome
      left) :
    produceTimed frontEnd plan program =
      result outcome (timed (recorded reconstruction.startedEntry program) outcome left) := by
  have ended := produce_of_produces produces
  unfold produceTimed Activity.around
  cases outcome <;> simp only [ended, result] <;> rfl

theorem open_log_of_ok {settings : Settings} {session : Session}
    (opened : Session.openLog settings.logDirectory settings.verbose program.session =
      .ok () session) :
    openLog settings program = result (.ok ()) { program with session } := by
  simp only [openLog, opened, result]

theorem open_log_of_error {settings : Settings} {session : Session} {error : FileError}
    (refused : Session.openLog settings.logDirectory settings.verbose program.session =
      .error error session) :
    openLog settings program = result (.error (.ofFileError error)) { program with session } := by
  simp only [openLog, refused, result]

theorem proceed_eq (options : Options) :
    proceed invocation options (begun program) =
      (match Program.plan (begun program).session.files options
          (loading invocation program).settings with
        | .ok plan => carryOut invocation.frontEnd plan
        | .error abort =>
            if abort.isBadValue then do
              printError s!"Configuration error: {abort.message}\n"
              return .failure
            else throw abort) (settling invocation program) := rfl

theorem start_of_settles {options : Options} {outcome : Except Abort Plan}
    (settles : Settles invocation program options outcome) :
    start invocation (begun program) =
      (match outcome with
        | .ok plan => carryOut invocation.frontEnd plan
        | .error abort =>
            if abort.isBadValue then do
              printError s!"Configuration error: {abort.message}\n"
              return .failure
            else throw abort) (settling invocation program) := by
  simp only [start, settles.asked, proceed_eq, settles.plan]

theorem start_of_embarks {outcome : Except Abort Report} {ready left : Program}
    (embarks : Embarks invocation program plan ready)
    (produces : Produces invocation.frontEnd plan ready outcome left) :
    start invocation (begun program) =
      match outcome with
      | .error (.failure cause) =>
          .ok .failure (recorded (fatalEntry cause) (timed ready outcome left))
      | .error abort => .error abort (timed ready outcome left)
      | .ok report =>
          match plan.output with
          | .error abort => .error abort (timed ready outcome left)
          | .ok output =>
              .ok .success (recordedAll (summary report output) (timed ready outcome left)) := by
  obtain ⟨options, plan, session, settles, opened⟩ := embarks
  have ended := produce_timed_of_produces produces
  refine (start_of_settles settles).trans ?_
  refine (bind_of_ok (open_log_of_ok opened)).trans ?_
  change report invocation.frontEnd plan
    (recordedAll (planJournal plan) { settling invocation program with session }) = _
  unfold report
  rw [ended]
  cases outcome with
  | ok report => rfl
  | error abort => cases abort <;> rfl

theorem run_of_start {outcome : Except Abort ExitStatus} {left : Program}
    (ended : start invocation (begun program) = result outcome left) :
    run invocation program = result outcome
      (match outcome with
        | .ok _ => left
        | .error abort => broken program abort left) := by
  unfold begun at ended
  unfold run
  rw [ended]
  cases outcome <;> rfl

theorem run_of_runs {outcome : Except Abort ExitStatus}
    (runs : Runs invocation program outcome later) :
    run invocation program = result outcome later := by
  cases runs with
  | help asked =>
      have ended : start invocation (begun program) =
          result (.ok .success) (printed (Options.help invocation.program) (begun program)) := by
        simp only [start, asked]
        rfl
      exact run_of_start ended
  | misuse misuse asked =>
      have ended : start invocation (begun program) = result (.ok .misuse)
          (printedError (Options.misuseText invocation.program misuse) (begun program)) := by
        simp only [start, asked]
        rfl
      exact run_of_start ended
  | unsettled options abort settles bad =>
      have ended : start invocation (begun program) = result (.ok .failure)
          (printedError s!"Configuration error: {abort.message}\n"
            (settling invocation program)) := by
        rw [start_of_settles settles]
        simp only [bad]
        rfl
      exact run_of_start ended
  | uncaught options abort settles other =>
      have ended : start invocation (begun program) =
          result (.error abort) (settling invocation program) := by
        rw [start_of_settles settles]
        simp only [other]
        rfl
      exact run_of_start ended
  | unlogged options plan error session settles refused =>
      have ended : start invocation (begun program) = result (.error (.ofFileError error))
          { settling invocation program with session } := by
        refine (start_of_settles settles).trans ?_
        exact bind_of_error (open_log_of_error refused)
      exact run_of_start ended
  | fatal plan ready left cause embarks produces =>
      have ended : start invocation (begun program) = result (.ok .failure)
          (recorded (fatalEntry cause) (timed ready (.error (.failure cause)) left)) :=
        start_of_embarks embarks produces
      exact run_of_start ended
  | broken plan ready left abort embarks produces other =>
      have ended : start invocation (begun program) =
          result (.error abort) (timed ready (.error abort) left) := by
        rw [start_of_embarks embarks produces]
        cases abort with
        | failure cause => exact absurd rfl (other cause)
        | _ => rfl
      exact run_of_start ended
  | finished plan ready left report output embarks produces named =>
      have ended : start invocation (begun program) = result (.ok .success)
          (recordedAll (summary report output) (timed ready (.ok report) left)) := by
        rw [start_of_embarks embarks produces]
        simp only [named]
        rfl
      exact run_of_start ended

theorem produces_output {frontEnd : FrontEnd} {report : Report}
    (produces : Produces frontEnd plan program (.ok report) later) :
    ∃ output, plan.output = .ok output := by
  cases produces with
  | saved report document ready output files rebuilds named saved => exact ⟨output, named⟩

theorem runs_of_embarks {ready : Program} (embarks : Embarks invocation program plan ready) :
    ∃ outcome later, Runs invocation program outcome later := by
  obtain ⟨outcome, left, produces⟩ := produces_some_way invocation.frontEnd plan ready
  cases outcome with
  | ok report =>
      obtain ⟨output, named⟩ := produces_output produces
      exact ⟨_, _, .finished plan ready left report output embarks produces named⟩
  | error abort =>
      by_cases fatal : ∃ cause, abort = .failure cause
      · obtain ⟨cause, rfl⟩ := fatal
        exact ⟨_, _, .fatal plan ready left cause embarks produces⟩
      · have other : ∀ cause, abort ≠ .failure cause := fun cause same => fatal ⟨cause, same⟩
        exact ⟨_, _, .broken plan ready left abort embarks produces other⟩

theorem runs_some_way (invocation : Invocation) (program : Program) :
    ∃ outcome later, Runs invocation program outcome later := by
  cases asked : Options.ofTokens invocation.tokens with
  | error refusal =>
      cases refusal with
      | help => exact ⟨_, _, .help asked⟩
      | misuse misuse => exact ⟨_, _, .misuse misuse asked⟩
  | ok options =>
      cases met : Program.plan (begun program).session.files options
          (loading invocation program).settings with
      | error abort =>
          cases bad : abort.isBadValue with
          | true => exact ⟨_, _, .unsettled options abort ⟨asked, met⟩ bad⟩
          | false => exact ⟨_, _, .uncaught options abort ⟨asked, met⟩ bad⟩
      | ok plan =>
          cases opened : Session.openLog plan.settings.logDirectory plan.settings.verbose
              (settling invocation program).session with
          | error error session =>
              exact ⟨_, _, .unlogged options plan error session ⟨asked, met⟩ opened⟩
          | ok done session =>
              exact runs_of_embarks (.intro options plan session ⟨asked, met⟩ opened)

/-- The run goes one of the ways, and goes every one of them that there is. -/
theorem run_iff {outcome : Except Abort ExitStatus} :
    run invocation program = result outcome later ↔ Runs invocation program outcome later := by
  constructor
  · intro ended
    obtain ⟨other, left, runs⟩ := runs_some_way invocation program
    rw [run_of_runs runs] at ended
    obtain ⟨rfl, rfl⟩ := result_injective ended
    exact runs
  · exact run_of_runs

end Run

end DebugRecovery.Program
