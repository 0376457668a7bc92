import DebugRecovery.Proofs.Program.Log
import DebugRecovery.Proofs.Program.Plan
import DebugRecovery.Proofs.Reconstruction.Failures

/-!
# The output of a run

The output is opened after everything that can fail but its own writing. So a run
that does not end well leaves every file as it was, its log apart, unless the room
or the stack ended while the document was written; then the output holds a
beginning of it. A run that ends well leaves in the output the document that was
built from the binary, the source and the table of queries.
-/

set_option autoImplicit false

namespace DebugRecovery.Program

open Source

variable {invocation : Invocation} {plan : Plan} {frontEnd : FrontEnd}
  {program later ready left : Program} {log : Path} {place : Place} {files : FileTree}
  {clock : Instant}

/-- The file at the place is the log of the run. -/
def IsLog (later : Program) (place : Place) : Prop :=
  ∃ path, later.session.logging.path = some path ∧
    later.session.files.locate path = .ok place

theorem is_log_eq (held : Session.LogAt log place later.session) :
    IsLog later = (· = place) := by
  funext other
  apply propext
  constructor
  · rintro ⟨path, same, reached⟩
    rw [held.current] at same
    cases same
    rw [held.located] at reached
    exact (Except.ok.inj reached).symm
  · rintro rfl
    exact ⟨log, held.current, held.located⟩

/-- The log apart, the files are the same as before, with the same content. -/
def Untouched (files : FileTree) (later : Program) : Prop :=
  ∀ place, ¬ IsLog later place → ∀ content,
    later.session.files.node? place = some (.file content) ↔
      files.node? place = some (.file content)

theorem untouched_of_logged (logged : Logged log place files clock later) :
    Untouched files later := by
  intro other unlogged content
  rw [is_log_eq logged.log] at unlogged
  exact logged.files.same other unlogged content

theorem untouched_of_spares
    (spared : FileTree.Spares (fun _ => False) files later.session.files) :
    Untouched files later :=
  fun other _ content => spared.same other id content

/-- What is noted at the end of a run without a log stays in the session. -/
theorem broken_untouched (abort : Abort)
    (unlogged : Session.LogsTo (fun _ => False) left.session)
    (spared : FileTree.Spares (fun _ => False) files left.session.files) :
    Untouched files (broken program abort left) := by
  have quiet := Session.record_quiet
    (activity.failedEntry (now program) left.now abort.message) unlogged
  exact untouched_of_spares (FileTree.spares_trans spared quiet.files)

/-- What a plan builds at some time: the text of the document for the image and the source, with the
digest of the binary. The image is the binary's in one tree of files, the table that in the other. -/
inductive Builds (frontEnd : FrontEnd) (plan : Plan) (now : Instant) (files held : FileTree) :
    String → Prop where
  | intro (content : ByteArray) (image : Image) (table : QueryTable) (source : SourceFile)
      (report : Report) (left : Reconstruction)
      (opened : files.read plan.binary = .ok content)
      (read : Image.ofBytes content = .ok image)
      (tabulated : QueryTable.load held plan.settings.symbols = .ok table)
      (understood : frontEnd.parse plan.source = .ok source)
      (ran : Reconstruction.run (material files.limits image source) table (blank image now) =
        .ok report left) :
      Builds frontEnd plan now files held
        (left.document.text ⟨plan.binary.text, Digest.Sha256.text content.toList⟩)

theorem planned_of_embarks (unopened : program.session.logging = {})
    (embarks : Embarks invocation program plan ready) :
    ∃ options, Planned invocation program.session.files options (.ok plan) := by
  obtain ⟨options, plan, session, settles, opened⟩ := embarks
  exact ⟨options, (settles_iff unopened).mp settles⟩

theorem image_loaded {path : Path} {image : Image} (loaded : Image.load files path = .ok image) :
    ∃ content, files.read path = .ok content ∧ Image.ofBytes content = .ok image := by
  unfold Image.load at loaded
  split at loaded
  · contradiction
  · rename_i content opened
    exact ⟨content, opened, loaded⟩

/-- The document is built from the binary, which is not the log, as it was at first. -/
theorem builds_of_rebuilds {report : Report} {document : Document} {subject : Document.Subject}
    (embarked : Logged log place files clock program)
    (rebuilds : Rebuilds frontEnd plan program report document ready)
    (binary : files.isFile plan.binary = .ok true)
    (apart : files.Avoids plan.binary (· = place))
    (described : Document.subject ready.session.files plan.binary = .ok subject) :
    Builds frontEnd plan clock files program.session.files (document.text subject) := by
  have rebuilt := logged_of_rebuilds embarked rebuilds
  obtain ⟨content, again, rfl⟩ := Document.subject_ok_iff.mp described
  have opened := FileTree.read_earlier rebuilt.files apart binary again
  obtain ⟨table, image, source, report, left, loaded, ran⟩ := rebuilds
  obtain ⟨other, reopened, read⟩ := image_loaded loaded.image
  rw [FileTree.read_spared (logged_opening plan embarked).files apart opened] at reopened
  cases reopened
  have parsed : Logged log place files clock (parsed frontEnd plan program image) :=
    logged_parsed image embarked
  rw [gathered, parsed.files.limits, parsed.clock] at ran
  exact .intro content image table source report left opened read loaded.table loaded.source ran

/-- The output of the plan leads to the place, and no file but the one there and the log differs from
what it was before the run. -/
structure Reaches (invocation : Invocation) (program later : Program) (plan : Plan)
    (place : Place) : Prop where
  planned : ∃ options, Planned invocation program.session.files options (.ok plan)
  output : ∃ output, plan.output = .ok output ∧ later.session.files.locate output = .ok place
  spares : FileTree.Spares (fun other => other = place ∨ IsLog later other) program.session.files
    later.session.files

/-- Neither the output nor the binary is the log. -/
structure Apart (later : Program) (plan : Plan) (place : Place) : Prop where
  output : ¬ IsLog later place
  binary : later.session.files.Avoids plan.binary (IsLog later)

/-- The text is that of the document which the plan builds of the binary as it was before the run.
Only the log, if it is the table, could be read otherwise than before. -/
def Built (invocation : Invocation) (program later : Program) (plan : Plan) (text : String) :
    Prop :=
  ∃ held, FileTree.Spares (IsLog later) program.session.files held ∧
    Builds invocation.frontEnd plan program.now program.session.files held text

/-- The output holds the document that was built, unless a device took it. Of an output or a binary
that is the log nothing is said. -/
def Delivered (invocation : Invocation) (program later : Program) : Prop :=
  ∃ plan place, Reaches invocation program later plan place ∧
    (Apart later plan place → ∃ text, Built invocation program later plan text ∧
      Document.Stored later.session.files place text)

/-- What can end the writing of the output: its room, which is a failure of the run, or the depth to
which the stack reaches, which leaves no status. -/
def Exhausted (files : FileTree) (place : Place) (outcome : Except Abort ExitStatus) : Prop :=
  (∃ room, files.limits.room place = some room) ∧ outcome = .ok .failure ∨
    (∃ depth, files.limits.depth .output = some depth) ∧ outcome = .error .endless

/-- Writing the output has ended early, and the output holds a beginning of the document that was
built. -/
def CutOff (invocation : Invocation) (program later : Program)
    (outcome : Except Abort ExitStatus) : Prop :=
  ∃ plan place, Reaches invocation program later plan place ∧
    Exhausted program.session.files place outcome ∧
    (Apart later plan place → ∃ text part, Built invocation program later plan text ∧
      later.session.files.node? place = some (.file part) ∧
      FileTree.IsStart part (Text.Utf8.encode text))

section Written

variable {report : Report} {document : Document} {tree : FileTree} {target : Place} {output : Path}

/-- Between the reconstruction and the end of the run one file was written, the log apart. -/
theorem reaches_of_written (unopened : program.session.logging = {})
    (embarks : Embarks invocation program plan ready)
    (rebuilt : Logged log place program.session.files clock left)
    (named : plan.output = .ok output) (located : tree.locate output = .ok target)
    (written : FileTree.Spares (· = target) left.session.files tree)
    (ended : Logged log place tree clock later) : Reaches invocation program later plan target := by
  refine ⟨planned_of_embarks unopened embarks, ⟨output, named, ?_⟩, ?_⟩
  · exact FileTree.locate_spared ended.files located
  · rw [is_log_eq ended.log]
    refine FileTree.spares_trans
      (FileTree.spares_wider rebuilt.files fun other inside => Or.inr inside) ?_
    exact FileTree.spares_trans
      (FileTree.spares_wider written fun other inside => Or.inl inside)
      (FileTree.spares_wider ended.files fun other inside => Or.inr inside)

theorem built_of_written (unopened : program.session.logging = {})
    (embarks : Embarks invocation program plan ready)
    (embarked : Logged log place program.session.files program.now ready)
    (rebuilds : Rebuilds invocation.frontEnd plan ready report document left)
    {subject : Document.Subject}
    (described : Document.subject left.session.files plan.binary = .ok subject)
    (written : FileTree.Spares (· = target) left.session.files tree)
    (ended : Logged log place tree clock later) (apart : Apart later plan target) :
    Built invocation program later plan (document.text subject) := by
  obtain ⟨options, planned⟩ := planned_of_embarks unopened embarks
  have rebuilt := logged_of_rebuilds embarked rebuilds
  have binaryApart := apart.binary
  rw [is_log_eq ended.log] at binaryApart
  have earlier := FileTree.avoids_earlier rebuilt.files
    (FileTree.avoids_earlier written (FileTree.avoids_earlier ended.files binaryApart))
  refine ⟨ready.session.files, ?_, ?_⟩
  · rw [is_log_eq ended.log]
    exact embarked.files
  · exact builds_of_rebuilds embarked rebuilds (plan_ok planned.plan).binary earlier described

end Written

theorem interrupted_cut_off {abort : Abort} {outcome : Except Abort ExitStatus}
    (unopened : program.session.logging = {}) (embarks : Embarks invocation program plan ready)
    (embarked : Logged log place program.session.files program.now ready)
    (interrupts : Interrupts invocation.frontEnd plan ready abort left)
    (failed : (∃ cause, abort = .failure cause) → outcome = .ok .failure)
    (broke : abort = .endless → outcome = .error .endless)
    (ended : Logged log place left.session.files program.now later) :
    CutOff invocation program later outcome := by
  obtain ⟨report, document, rebuilt, output, abort, tree, target, rebuilds, named, cut⟩ :=
    interrupts
  have logged := logged_of_rebuilds embarked rebuilds
  refine ⟨plan, target, ?_, ?_, fun apart => ?_⟩
  · exact reaches_of_written unopened embarks logged named cut.located cut.spares ended
  · have cause := cut.cause
    rw [logged.files.limits] at cause
    exact cause.imp (And.imp_right failed) (And.imp_right broke)
  · obtain ⟨subject, part, described, stands, start⟩ := cut.held
    refine ⟨_, part, ?_, ?_, start⟩
    · exact built_of_written unopened embarks embarked rebuilds described cut.spares ended apart
    · have outputApart := apart.output
      rw [is_log_eq ended.log] at outputApart
      exact (ended.files.same target outputApart part).mpr stands

/-- What is noted after a production that failed changes nothing but the log. -/
theorem untouched_or_cut_off {abort : Abort} {outcome : Except Abort ExitStatus}
    (unopened : program.session.logging = {}) (embarks : Embarks invocation program plan ready)
    (produces : Produces invocation.frontEnd plan ready (.error abort) left)
    (failed : (∃ cause, abort = .failure cause) → outcome = .ok .failure)
    (broke : abort = .endless → outcome = .error .endless)
    (noted : ∀ {place files clock}, Logged (logPath plan program) place files clock left →
      Logged (logPath plan program) place files clock later) :
    Untouched program.session.files later ∨ CutOff invocation program later outcome := by
  obtain ⟨place, embarked⟩ := logged_of_embarks unopened embarks
  rcases logged_or_interrupted embarked produces with logged | interrupts
  · exact Or.inl (untouched_of_logged (noted logged))
  · have ended := noted (logged_of_interrupts embarked interrupts)
    exact Or.inr (interrupted_cut_off unopened embarks embarked interrupts failed broke ended)

theorem unsuccessful_run_untouched (unopened : program.session.logging = {})
    {outcome : Except Abort ExitStatus} (runs : Runs invocation program outcome later)
    (unsuccessful : outcome ≠ .ok .success) :
    Untouched program.session.files later ∨ CutOff invocation program later outcome := by
  obtain ⟨errors, same⟩ := settling_unheard invocation unopened
  cases runs with
  | help asked => contradiction
  | misuse misuse asked =>
      refine Or.inl (untouched_of_spares ?_)
      change FileTree.Spares _ _ (begun program).session.files
      rw [begun_files unopened]
      exact FileTree.spares_refl _ _
  | unsettled options abort settles bad =>
      refine Or.inl (untouched_of_spares ?_)
      change FileTree.Spares _ _ (settling invocation program).session.files
      rw [same]
      exact FileTree.spares_refl _ _
  | uncaught options abort settles other =>
      refine Or.inl (broken_untouched abort ?_ ?_)
      · intro path attached
        rw [same, Session.withErrors, unopened] at attached
        simp at attached
      · rw [same]
        exact FileTree.spares_refl _ _
  | unlogged options plan error session settles refused =>
      have closed : (settling invocation program).session.logging = {} := by
        rw [same, Session.withErrors, unopened]
      obtain ⟨spared, unlogged⟩ := Session.open_log_error (fun _ => False) closed refused
      rw [same] at spared
      exact Or.inl (broken_untouched (.ofFileError error) unlogged spared)
  | fatal plan ready left cause embarks produces =>
      refine untouched_or_cut_off unopened embarks produces (fun _ => rfl) ?_ fun logged =>
        logged_fatal cause ready logged
      intro endless
      contradiction
  | broken plan ready left abort embarks produces other =>
      refine untouched_or_cut_off unopened embarks produces ?_ ?_ fun logged =>
        logged_broken program abort ready logged
      · rintro ⟨cause, failure⟩
        exact absurd failure (other cause)
      · rintro rfl
        rfl
  | finished plan ready left report output embarks produces named => contradiction

theorem successful_run_delivers (unopened : program.session.logging = {})
    (runs : Runs invocation program (.ok .success) later)
    (wanted : Options.ofTokens invocation.tokens ≠ .error .help) :
    Delivered invocation program later := by
  cases runs with
  | help asked => contradiction
  | finished plan ready left report output embarks produces named =>
      obtain ⟨place, embarked⟩ := logged_of_embarks unopened embarks
      cases produces with
      | saved report document rebuilt other tree rebuilds also saved =>
          rw [named] at also
          cases also
          have logged := logged_of_rebuilds embarked rebuilds
          have ended : Logged (logPath plan program) place tree program.now
              (recordedAll (summary report output) (timed ready (.ok report)
                (recorded (document.savedEntry output) (withFiles tree rebuilt)))) :=
            logged_of_finished report ready logged saved
          obtain ⟨subject, target, described, located, written, stored⟩ :=
            Document.save_ok_spares saved
          refine ⟨plan, target, ?_, fun apart => ⟨document.text subject, ?_, ?_⟩⟩
          · exact reaches_of_written unopened embarks logged named located written ended
          · exact built_of_written unopened embarks embarked rebuilds described written ended apart
          · have outputApart := apart.output
            rw [is_log_eq ended.log] at outputApart
            exact Document.stored_spared ended.files outputApart stored

/-- A run that does not end well leaves all files as they were, its log apart, or writing the output
ended early and it holds a beginning of the document that was built. A run that ends well, and was
not asked for help, leaves the whole document in the output. -/
theorem output_written_or_cut_off (unopened : program.session.logging = {})
    {outcome : Except Abort ExitStatus} (ended : run invocation program = result outcome later) :
    (outcome ≠ .ok .success →
      Untouched program.session.files later ∨ CutOff invocation program later outcome) ∧
      (outcome = .ok .success → Options.ofTokens invocation.tokens ≠ .error .help →
        Delivered invocation program later) := by
  have runs := run_iff.mp ended
  constructor
  · exact unsuccessful_run_untouched unopened runs
  · rintro rfl wanted
    exact successful_run_delivers unopened runs wanted

def pathIn (name : String) : Path := ⟨.workingDirectory, [name]⟩

/-- There is an output before, and a device; the room may end. -/
def filesWith (binary : ByteArray) (room : Place → Option Room) : FileTree where
  nodes := [(["a.bin"], .file binary), (["a.c"], .file .empty), (["out"], .file ⟨#[0x7B]⟩),
    (["table"], .file ⟨#[0xFF]⟩), (["null"], .device)]
  workingDirectory := []
  limits := { room }

def noEnd : Place → Option Room := fun _ => none

/-- There is no room for the output. -/
def fullOutput : Place → Option Room := fun place =>
  if place = ["out"] then some ⟨0, .space⟩ else none

def startWith (binary : ByteArray) (room : Place → Option Room) : Program :=
  ⟨{ files := filesWith binary room, clock := .origin, started := ⟨2024, 1, 2, 3, 4, 5⟩,
     stamp := ⟨1970, 1, 1, 0, 0, 0⟩ }, []⟩

def invocationTo (output : String) : Invocation :=
  ⟨"reconstruct", ["a.bin", "a.c", "-o", output], [], .parses ⟨[], []⟩⟩

def optionsTo (output : String) : Options :=
  ⟨.filled (pathIn "a.bin"), .filled (pathIn "a.c"), none, some (.filled (pathIn output)), [],
    false⟩

def planTo (output : String) : Plan :=
  ⟨{ binary := some (pathIn "a.bin"), source := some (pathIn "a.c"),
     output := some (pathIn output) },
    pathIn "a.bin", pathIn "a.c", .ok (pathIn output)⟩

def headerOnly : ByteArray :=
  ⟨#[0x7F, 0x45, 0x4C, 0x46, 1, 1] ++ (List.replicate 46 0).toArray⟩

def headerImage : Image := ⟨headerOnly, 0, false, [], .linkable⟩

def plainLogName : String := "sigsym_reconstructor_20240102_030405.log"

theorem plain_log_name : Session.logName ⟨2024, 1, 2, 3, 4, 5⟩ = plainLogName := by decide +kernel

section Runs

variable {binary : ByteArray} {room : Place → Option Room} {changed : Place → Prop}
  {tree : FileTree} {name : String}

/-- Wherever files have been made or written, a name still leads from the working directory to what
has the name. -/
theorem plain_located (known : name ∈ ["a.bin", "a.c", "out", "table", "null", "logs"])
    (spared : FileTree.Spares changed (filesWith binary room) tree) :
    tree.locate (pathIn name) = .ok [name] := by
  refine FileTree.locate_spared spared ?_
  simp only [List.mem_cons, List.not_mem_nil, or_false] at known
  rcases known with rfl | rfl | rfl | rfl | rfl | rfl <;>
    exact FileTree.locate_name FileTree.locate_here rfl rfl (by simp) (by decide) (by decide)
      (by decide)

theorem plain_file (known : name ∈ ["a.bin", "a.c", "table"]) :
    (filesWith binary room).isFile (pathIn name) = .ok true := by
  have located : (filesWith binary room).locate (pathIn name) = .ok [name] :=
    plain_located (by simp at known ⊢; tauto) (FileTree.spares_refl (fun _ => False) _)
  refine (FileTree.is_file_iff _ _).mpr ?_
  simp only [List.mem_cons, List.not_mem_nil, or_false] at known
  rcases known with rfl | rfl | rfl
  · exact ⟨binary, _, located, rfl⟩
  · exact ⟨.empty, _, located, rfl⟩
  · exact ⟨_, _, located, rfl⟩

/-- There is no settings file. -/
theorem plain_settings (environment : Settings.Environment) :
    (Settings.loadDefault (filesWith binary room) environment).settings =
      Settings.ofEnvironment environment := by
  have located : (filesWith binary room).locate ⟨.root, [".env"]⟩ = .ok [".env"] :=
    FileTree.locate_name FileTree.locate_root rfl rfl (by simp) (by decide) (by decide) (by decide)
  have found : (filesWith binary room).find? ⟨.root, [".env"]⟩ = .ok none := by
    rw [FileTree.find?, located]
    rfl
  have named : Settings.defaultFile (filesWith binary room) = .ok ⟨.root, [".env"]⟩ := rfl
  simp only [Settings.loadDefault, named, Settings.load, Settings.completion, found]
  rfl

theorem plain_planned {invocation : Invocation} {options : Options} {settings : Settings}
    {told : Settings.Given} (asked : Options.ofTokens invocation.tokens = .ok options)
    (configured : Settings.ofEnvironment invocation.environment = .ok settings)
    (given : Program.given options = .ok told) (full : ¬ HasVacant options)
    (named : (settings.override told).binary = some (pathIn "a.bin"))
    (also : (settings.override told).source = some (pathIn "a.c"))
    (symbols : ∀ path, (settings.override told).symbols = some path → path = pathIn "table") :
    Planned invocation (filesWith binary room) options
      (.ok ⟨settings.override told, pathIn "a.bin", pathIn "a.c",
        Program.output options (settings.override told)⟩) where
  asked := asked
  plan := by
    rw [plain_settings, configured]
    refine plan_of_inputs given (inputs_of_files full named also (plain_file (by simp))
      (plain_file (by simp)) fun path told => ?_)
    rw [symbols path told]
    exact plain_file (by simp)

theorem planned_to (given : name = "out" ∨ name = "null") :
    Planned (invocationTo name) (filesWith binary room) (optionsTo name) (.ok (planTo name)) := by
  have asked : Options.ofTokens (invocationTo name).tokens = .ok (optionsTo name) := by
    rcases given with rfl | rfl <;> rfl
  have configured : Settings.ofEnvironment [] = .ok {} := rfl
  have told : Program.given (optionsTo name) =
      .ok { binary := some (pathIn "a.bin"), source := some (pathIn "a.c"),
            output := some (pathIn name) } := rfl
  have full : ¬ HasVacant (optionsTo name) := by simp [HasVacant, optionsTo]
  exact plain_planned asked configured told full rfl rfl (by simp [Settings.override])

theorem plain_logs_free : (filesWith binary room).node? ["logs"] = none := by
  simp [FileTree.node?, filesWith, List.lookup_cons]

def filesWithLogs (binary : ByteArray) (room : Place → Option Room) : FileTree :=
  (filesWith binary room).put ["logs"] .directory

theorem plain_log_located : (filesWithLogs binary room).locate ((pathIn "logs").child plainLogName) =
    .ok [plainLogName, "logs"] := by
  have located : (filesWithLogs binary room).locate (pathIn "logs") = .ok ["logs"] := by
    refine FileTree.locate_put (by simp [plain_logs_free]) ?_
    exact plain_located (by simp) (FileTree.spares_refl (fun _ => False) _)
  exact FileTree.locate_name located (FileTree.node_put_same (by simp)) rfl
    (by simp [plainLogName]) (by decide) (by decide +kernel) (by decide)

theorem plain_log_accepted (error : FileError) :
    ¬ Session.LogRefused (filesWith binary room) (pathIn "logs") ⟨2024, 1, 2, 3, 4, 5⟩ error := by
  have made : FileTree.makeDirectories (pathIn "logs") (filesWith binary room) =
      .ok () (filesWithLogs binary room) :=
    FileTree.make_directories_at_once
      (FileTree.ensure_directory_new (plain_located (by simp) (FileTree.spares_refl (fun _ => False) _))
        plain_logs_free rfl)
  have free : (filesWithLogs binary room).node? [plainLogName, "logs"] = none := by
    simp [FileTree.node?, FileTree.put, Association.put, filesWithLogs, filesWith,
      List.lookup_cons]
  obtain ⟨files, written⟩ := FileTree.append_nothing_ok plain_log_located (.new free rfl)
  intro refused
  cases refused with
  | directory left failed =>
      rw [made] at failed
      contradiction
  | file ready left also failed =>
      rw [made] at also
      cases also
      rw [plain_log_name, written] at failed
      contradiction

/-- A plan for such files with the usual directory of logs is started. -/
theorem logging_plan_embarks {options : Options}
    (planned : Planned invocation (filesWith binary room) options (.ok plan))
    (usual : plan.settings.logDirectory = pathIn "logs") :
    ∃ ready, Embarks invocation (startWith binary room) plan ready := by
  have unopened : (startWith binary room).session.logging = {} := rfl
  obtain ⟨errors, same⟩ := settling_unheard invocation unopened
  have closed : (settling invocation (startWith binary room)).session.logging.isOpen = false := by
    rw [same]
    rfl
  cases opened : Session.openLog plan.settings.logDirectory plan.settings.verbose
      (settling invocation (startWith binary room)).session with
  | ok done session =>
      exact ⟨_, .intro options plan session ((settles_iff unopened).mpr planned) opened⟩
  | error error session =>
      have refused := (Session.open_log_error_iff closed).mp ⟨session, opened⟩
      rw [same, usual] at refused
      exact absurd refused (plain_log_accepted error)

/-- The log of such a run is none of the files that were there. -/
theorem plain_log_apart
    (logged : Logged (logPath plan (startWith binary room)) place files clock later)
    (short : name.length < 10) : [name] ≠ place := by
  have head : place.head? = some plainLogName := by
    rw [← plain_log_name]
    refine FileTree.locate_child logged.log.located ?_
    decide +kernel
  rintro rfl
  cases head
  contradiction

theorem plain_kept {target : Place}
    (rebuilt : Logged (logPath plan (startWith binary room)) place (filesWith binary room) clock left)
    (written : FileTree.Spares (· = target) left.session.files tree)
    (ended : Logged (logPath plan (startWith binary room)) place tree clock later) :
    FileTree.Spares (fun _ => True) (filesWith binary room) later.session.files :=
  FileTree.spares_trans (FileTree.spares_wider rebuilt.files fun _ _ => trivial)
    (FileTree.spares_trans (FileTree.spares_wider written fun _ _ => trivial)
      (FileTree.spares_wider ended.files fun _ _ => trivial))

theorem plain_apart (short : name.length < 10)
    (ended : Logged (logPath (planTo name) (startWith binary room)) place tree clock later)
    (kept : FileTree.Spares changed (filesWith binary room) later.session.files) :
    Apart later (planTo name) [name] := by
  have located : later.session.files.locate (planTo name).binary = .ok ["a.bin"] :=
    plain_located (by simp) kept
  constructor
  · rw [is_log_eq ended.log]
    exact plain_log_apart ended short
  · rw [is_log_eq ended.log]
    exact FileTree.avoids_of_located located (plain_log_apart ended (by decide))

theorem plain_binary_opened
    (logged : Logged (logPath plan (startWith binary room)) place (filesWith binary room) clock
      ready) : ready.session.files.read (pathIn "a.bin") = .ok binary := by
  have located : (filesWith binary room).locate (pathIn "a.bin") = .ok ["a.bin"] :=
    plain_located (by simp) (FileTree.spares_refl (fun _ => False) _)
  have stands : (filesWith binary room).node? ["a.bin"] = some (.file binary) := by
    simp [FileTree.node?, filesWith]
  have readable := (FileTree.read_ok_iff _ _ _).mpr ⟨_, located, rfl, .inl stands⟩
  exact FileTree.read_spared logged.files
    (FileTree.avoids_of_located located (plain_log_apart logged (by decide))) readable

/-- The output stands beside the files that were there, so no directory is made for it. -/
theorem plain_directory_there (spared : FileTree.Spares changed (filesWith binary room) tree)
    (name : String) : FileTree.makeDirectories (pathIn name).parent tree = .ok () tree := by
  have located : tree.locate ⟨.workingDirectory, []⟩ = .ok [] :=
    FileTree.locate_spared spared FileTree.locate_here
  exact FileTree.ensure_directory_there located rfl

/-- Nothing is too deep where there are no types. -/
theorem empty_source_rebuilt (limits : Limits) (image : Image) (now : Instant) : ∃ report left,
    Reconstruction.run (material limits image ⟨[], []⟩) {} (blank image now) =
      .ok report left := by
  have bare : material limits image ⟨[], []⟩ =
      ⟨⟨image.data, image.imageBase, image.sections⟩, ⟨[], []⟩⟩ := by
    unfold material SourceFile.within
    cases limits.depth .type <;> rfl
  rw [bare]
  cases ran : Reconstruction.run _ {} (blank image now) with
  | ok report left => exact ⟨report, left, rfl⟩
  | error abort left =>
      obtain ⟨phase, blocked⟩ := (Reconstruction.run_fails_iff _ _ _).mp ⟨abort, left, ran⟩
      refine absurd ?_ blocked
      cases phase with
      | diagnostics => rfl
      | structs => exact ⟨[], .nil, Document.admits_nothing _⟩
      | prototypes => exact ⟨[], rfl⟩
      | globals => exact ⟨[], rfl⟩

theorem header_only_rebuilt {output : String}
    (logged : Logged (logPath (planTo output) (startWith headerOnly room)) place
      (filesWith headerOnly room) clock ready) :
    ∃ report document left,
      Rebuilds (invocationTo output).frontEnd (planTo output) ready report document left := by
  have read : Image.load (opening (planTo output) ready).session.files (planTo output).binary =
      .ok headerImage := by
    change Image.load _ (pathIn "a.bin") = _
    rw [Image.load, plain_binary_opened (logged_opening (planTo output) logged)]
    rfl
  let state := parsed (invocationTo output).frontEnd (planTo output) ready headerImage
  obtain ⟨report, left, ran⟩ :=
    empty_source_rebuilt state.session.files.limits headerImage state.now
  exact ⟨report, left.document, _, .intro {} headerImage ⟨[], []⟩ report left ⟨rfl, read, rfl⟩ ran⟩

def plainSubject (binary : ByteArray) : Document.Subject :=
  ⟨(pathIn "a.bin").text, Digest.Sha256.text binary.toList⟩

theorem plain_subject
    (logged : Logged (logPath plan (startWith binary room)) place (filesWith binary room) clock
      ready) :
    Document.subject ready.session.files (pathIn "a.bin") = .ok (plainSubject binary) :=
  Document.subject_ok_iff.mpr ⟨binary, plain_binary_opened logged, rfl⟩

theorem plain_output_there : (filesWith binary room).node? ["out"] = some (.file ⟨#[0x7B]⟩) := by
  simp [FileTree.node?, filesWith, List.lookup_cons]

theorem plain_output_takes (spared : FileTree.Spares changed (filesWith binary room) tree) :
    ∃ held, tree.Takes ["out"] (.file held) := by
  obtain ⟨held, stands⟩ := spared.files _ _ plain_output_there
  refine ⟨held, .file held stands ?_⟩
  rw [spared.limits]
  rfl

theorem plain_null_device (spared : FileTree.Spares changed (filesWith binary room) tree) :
    tree.node? ["null"] = some .device := by
  refine spared.devices _ ?_
  simp [FileTree.node?, filesWith, List.lookup_cons]

theorem plain_takes (given : name = "out" ∨ name = "null")
    (spared : FileTree.Spares changed (filesWith binary room) tree) :
    ∃ target, tree.Takes [name] target := by
  rcases given with rfl | rfl
  · obtain ⟨held, takes⟩ := plain_output_takes spared
    exact ⟨_, takes⟩
  · refine ⟨_, .device (plain_null_device spared) ?_⟩
    rw [spared.limits]
    rfl

theorem foreign_binary_fails : ∃ later,
    Runs (invocationTo "out") (startWith ⟨#[1]⟩ noEnd) (.ok .failure) later ∧
      ¬ IsLog later ["out"] := by
  obtain ⟨ready, embarks⟩ := logging_plan_embarks
    (@planned_to ⟨#[1]⟩ noEnd "out" (.inl rfl)) rfl
  obtain ⟨place, embarked⟩ := logged_of_embarks rfl embarks
  have failed : Image.load (opening (planTo "out") ready).session.files (planTo "out").binary =
      .error (.failure (.image "Unrecognized binary format (magic b'\\x01')")) := by
    change Image.load _ (pathIn "a.bin") = _
    rw [Image.load, plain_binary_opened (logged_opening (planTo "out") embarked)]
    rfl
  have produces : Produces (invocationTo "out").frontEnd (planTo "out") ready _ _ :=
    .image {} _ rfl failed
  have ended := logged_fatal (.image "Unrecognized binary format (magic b'\\x01')") ready
    (logged_imaged (planTo "out") embarked)
  refine ⟨_, .fatal _ _ _ _ embarks produces, fun inside => ?_⟩
  rw [is_log_eq ended.log] at inside
  exact plain_log_apart ended (by decide) inside

/-- An output that takes all that is written to it is saved. -/
theorem header_only_finishes (given : name = "out" ∨ name = "null") : ∃ later,
    Runs (invocationTo name) (startWith headerOnly noEnd) (.ok .success) later ∧
      FileTree.Spares (fun _ => True) (filesWith headerOnly noEnd) later.session.files ∧
      Apart later (planTo name) [name] := by
  have known : name ∈ ["a.bin", "a.c", "out", "table", "null", "logs"] := by
    rcases given with rfl | rfl <;> simp
  have short : name.length < 10 := by
    rcases given with rfl | rfl <;> decide
  obtain ⟨ready, embarks⟩ := logging_plan_embarks (planned_to given) rfl
  obtain ⟨place, embarked⟩ := logged_of_embarks rfl embarks
  obtain ⟨report, document, left, rebuilds⟩ := header_only_rebuilt embarked
  have rebuilt := logged_of_rebuilds embarked rebuilds
  have spared : FileTree.Spares (fun _ => True) (filesWith headerOnly noEnd) left.session.files :=
    FileTree.spares_wider rebuilt.files fun _ _ => trivial
  obtain ⟨target, taken⟩ := plain_takes given spared
  have roomy : left.session.files.limits.room [name] = none := by
    rw [spared.limits]
    rfl
  have written := FileTree.overwrite_of_roomy (plain_located known spared) taken roomy
    (Text.Utf8.encode (document.text (plainSubject headerOnly)))
  have unbounded : left.session.files.limits.depth .output = none := by
    rw [spared.limits]
    rfl
  have saved : document.save (planTo name).binary (pathIn name) left.session.files = .ok () _ :=
    Document.save_of_written (plain_subject rebuilt) (plain_directory_there spared name) unbounded
      written
  have produces : Produces (invocationTo name).frontEnd (planTo name) ready (.ok report) _ :=
    .saved _ _ _ (pathIn name) _ rebuilds rfl saved
  have ended := logged_of_finished report ready rebuilt saved
  obtain ⟨_, _, _, _, changed, _⟩ := Document.save_ok_spares saved
  have kept := plain_kept rebuilt changed ended
  exact ⟨_, .finished _ _ _ _ (pathIn name) embarks produces rfl, kept, plain_apart short ended kept⟩

/-- An output without room is emptied, and then the run fails. -/
theorem full_output_fails : ∃ later,
    Runs (invocationTo "out") (startWith headerOnly fullOutput) (.ok .failure) later ∧
      later.session.files.node? ["out"] = some (.file .empty) ∧
      Apart later (planTo "out") ["out"] := by
  obtain ⟨ready, embarks⟩ := logging_plan_embarks
    (@planned_to headerOnly fullOutput "out" (.inl rfl)) rfl
  obtain ⟨place, embarked⟩ := logged_of_embarks rfl embarks
  obtain ⟨report, document, left, rebuilds⟩ := header_only_rebuilt embarked
  have rebuilt := logged_of_rebuilds embarked rebuilds
  obtain ⟨held, takes⟩ := plain_output_takes rebuilt.files
  have given : left.session.files.limits.room ["out"] = some ⟨0, .space⟩ := by
    rw [rebuilt.files.limits]
    rfl
  have lacking := Document.text_filled document (plainSubject headerOnly)
  have unbounded : left.session.files.limits.depth .output = none := by
    rw [rebuilt.files.limits]
    rfl
  let tree := left.session.files.put ["out"] (.file .empty)
  have emptied : FileTree.overwrite (pathIn "out")
      (Text.Utf8.encode (document.text (plainSubject headerOnly))) left.session.files =
        .error ⟨.short .space, pathIn "out"⟩ tree := by
    rw [FileTree.overwrite_of_short (plain_located (by simp) rebuilt.files) takes given lacking]
    simp [tree]
  have unsaved : document.save (planTo "out").binary (pathIn "out") left.session.files =
      .error (.failure (Document.saveFailure (pathIn "out")
        (FileError.message ⟨.short .space, pathIn "out"⟩))) tree :=
    Document.save_of_unwritten (plain_subject rebuilt) (plain_directory_there rebuilt.files "out")
      unbounded emptied
  have produces : Produces (invocationTo "out").frontEnd (planTo "out") ready _ _ :=
    .save _ _ _ (pathIn "out") _ _ rebuilds rfl unsaved
  have changed : FileTree.Spares (· = ["out"]) left.session.files tree :=
    FileTree.holding_spares .empty takes rfl
  have ended := logged_fatal (Document.saveFailure (pathIn "out")
    (FileError.message ⟨.short .space, pathIn "out"⟩)) ready (logged_written rebuilt changed)
  have apart : ["out"] ≠ place := plain_log_apart ended (by decide)
  have bare : tree.node? ["out"] = some (.file .empty) := FileTree.node_put_same (by simp)
  refine ⟨_, .fatal _ _ _ _ embarks produces, (ended.files.same ["out"] apart .empty).mpr bare, ?_⟩
  exact plain_apart (by decide) ended (plain_kept rebuilt changed ended)

end Runs

/-- What is no image leaves the output as it was; a header has its document written over it. -/
theorem output_written_over_by_header_only :
    (∃ later, run (invocationTo "out") (startWith ⟨#[1]⟩ noEnd) = result (.ok .failure) later ∧
      later.session.files.node? ["out"] = some (.file ⟨#[0x7B]⟩)) ∧
    ∃ later text,
      run (invocationTo "out") (startWith headerOnly noEnd) = result (.ok .success) later ∧
        Built (invocationTo "out") (startWith headerOnly noEnd) later (planTo "out") text ∧
        later.session.files.node? ["out"] = some (.file (Text.Utf8.encode text)) := by
  constructor
  · obtain ⟨later, runs, unlogged⟩ := foreign_binary_fails
    have ended := run_of_runs runs
    rcases (output_written_or_cut_off rfl ended).1 (by simp) with
      untouched | ⟨_, _, _, ⟨⟨_, room⟩, _⟩ | ⟨⟨_, depth⟩, _⟩, _⟩
    · exact ⟨later, ended, (untouched ["out"] unlogged _).mpr plain_output_there⟩
    · contradiction
    · contradiction
  · obtain ⟨later, runs, spared, apart⟩ := header_only_finishes (.inl rfl)
    have ended := run_of_runs runs
    have wanted : Options.ofTokens (invocationTo "out").tokens ≠ .error .help := by
      rw [(@planned_to headerOnly noEnd "out" (.inl rfl)).asked]
      simp
    obtain ⟨plan, place, reaches, delivered⟩ := (output_written_or_cut_off rfl ended).2 rfl wanted
    obtain ⟨options, planned⟩ := reaches.planned
    cases planned_unique (planned_to (.inl rfl)) planned
    obtain ⟨output, named, located⟩ := reaches.output
    cases named
    rw [plain_located (by simp) spared] at located
    cases located
    obtain ⟨text, built, file | device⟩ := delivered apart
    · exact ⟨later, text, ended, built, file⟩
    · obtain ⟨held, takes⟩ := plain_output_takes spared
      cases takes <;> simp_all

/-- Without room the output is emptied by a run that fails, and a device keeps nothing of what a
successful run has written to it. -/
theorem output_lost_without_room_or_file :
    (∃ later, run (invocationTo "out") (startWith headerOnly fullOutput) = .ok .failure later ∧
      Apart later (planTo "out") ["out"] ∧
      (filesWith headerOnly fullOutput).node? ["out"] = some (.file ⟨#[0x7B]⟩) ∧
      later.session.files.node? ["out"] = some (.file .empty)) ∧
    ∃ later, run (invocationTo "null") (startWith headerOnly noEnd) = .ok .success later ∧
      Apart later (planTo "null") ["null"] ∧
      ∀ content, ¬ later.session.files.Contains (pathIn "null") content := by
  constructor
  · obtain ⟨later, runs, emptied, apart⟩ := full_output_fails
    exact ⟨later, run_of_runs runs, apart, plain_output_there, emptied⟩
  · obtain ⟨later, runs, spared, apart⟩ := header_only_finishes (.inr rfl)
    refine ⟨later, run_of_runs runs, apart, ?_⟩
    rintro content ⟨place, located, stands⟩
    rw [plain_located (by simp) spared] at located
    cases located
    rw [plain_null_device spared] at stands
    cases stands

end DebugRecovery.Program
