import DebugRecovery.Document.Save
import DebugRecovery.Image.Load
import DebugRecovery.Options
import DebugRecovery.Options.Help
import DebugRecovery.Reconstruction
import DebugRecovery.Session
import DebugRecovery.Settings
import DebugRecovery.Source.Native
import DebugRecovery.Symbol.Load

/-!
The program. It settles what is asked for, opens the log, reconstructs the debug
information and saves it. It ends with a status; what is neither bad settings nor
a failure of the reconstruction ends it without one.
-/

set_option autoImplicit false

namespace DebugRecovery

open Source

/-- What a program starts from, its files and streams apart. -/
structure Invocation where
  program : String
  tokens : List String
  environment : Settings.Environment
  frontEnd : FrontEnd

inductive ExitStatus where
  | success
  | failure
  | misuse
  deriving DecidableEq, Repr

def ExitStatus.code : ExitStatus → Nat
  | .success => 0
  | .failure => 1
  | .misuse => 2

/-- The program in progress: its session and the requests that reached the front end. -/
structure Program where
  session : Session
  calls : List ParseCall := []

namespace Program

abbrev Step := EStateM Abort Program

def recorded (entry : Entry) (program : Program) : Program :=
  { program with session := program.session.record entry }

def record (entry : Entry) : Step Unit := modify (recorded entry)

def recordAll (journal : Journal) : Step Unit :=
  modify fun program => { program with session := program.session.recordAll journal }

def print (text : String) : Step Unit :=
  modify fun program => { program with session := program.session.print text }

def printError (text : String) : Step Unit :=
  modify fun program => { program with session := program.session.printError text }

def files : Step FileTree := do return (← get).session.files

def now (program : Program) : Instant := program.session.clock

/-- The value, unless something prevented it. -/
def demand {Value : Type} : Except Abort Value → Step Value
  | .ok value => pure value
  | .error abort => throw abort

/-- Settings whose inputs are all there; the output is told when it is needed. -/
structure Plan where
  settings : Settings
  binary : Path
  source : Path
  output : Except Abort Path

/-- The value of a slot, which is not there when it is needed if the slot is vacant. -/
def filled {Value : Type} (need : Need) : Options.Slot Value → Except Abort Value
  | .vacant => .error (.vacant need)
  | .filled value => .ok value

def given (options : Options) : Except Abort Settings.Given := do
  let coptions ← options.coptions.mapM (filled .option)
  .ok { binary := options.binary.value?
        source := options.source.value?
        symbols := options.symbols.bind Options.Slot.value?
        output := options.output.bind Options.Slot.value?
        options := coptions
        verbose := options.verbose }

/-- Nothing, unless the slot of an argument is vacant; without the argument there is no slot. -/
def checkFilled {Value : Type} (need : Need) (slot : Option (Options.Slot Value)) :
    Except Abort Unit := do
  let _ ← slot.mapM (filled need)

/-- The inputs, which are looked up in order; those of vacant slots cannot be. -/
def inputs (files : FileTree) (options : Options) (settings : Settings) :
    Except Abort (Path × Path) := do
  checkFilled .file (some options.binary)
  let binary ← Settings.input files "Binary" settings.binary
  checkFilled .file (some options.source)
  let source ← Settings.input files "Source" settings.source
  checkFilled .file options.symbols
  Settings.symbolsInput files settings.symbols
  .ok (binary, source)

def output (options : Options) (settings : Settings) : Except Abort Path := do
  checkFilled .directory options.output
  settings.outputPath

def plan (files : FileTree) (options : Options) (loaded : Except Abort Settings) :
    Except Abort Plan := do
  let settings ← loaded
  let settings := settings.override (← given options)
  let (binary, source) ← inputs files options settings
  .ok ⟨settings, binary, source, output options settings⟩

def planPaths (settings : Settings) (started : Moment) : List Path :=
  [settings.binary, settings.source, settings.symbols, settings.outputPath.toOption].filterMap id ++
    [settings.logDirectory.child (Session.logName started)]

/-- The paths that a run may look up, given the files that tell its settings. -/
def paths (invocation : Invocation) (files : FileTree) (started : Moment) : List Path :=
  match Options.ofTokens invocation.tokens with
  | .error _ => []
  | .ok options =>
      match (Settings.loadDefault files invocation.environment).settings with
      | .error _ => []
      | .ok settings =>
          match given options with
          | .error _ => []
          | .ok given => planPaths (settings.override given) started

def loadSymbols (path : Option Path) : Step QueryTable := do
  let files ← files
  recordAll (QueryTable.loadJournal files path)
  demand (QueryTable.load files path)

def loadImage (path : Path) : Step Image := do
  record (Image.readingEntry path)
  let outcome := Image.load (← files) path
  recordAll (Image.outcomeNotes outcome)
  demand outcome

def call (calls : List ParseCall) : Step Unit :=
  modify fun program => { program with calls := program.calls ++ calls }

def parse (frontEnd : FrontEnd) (path : Path) (options : List String) (is64 : Bool) :
    Step SourceFile := do
  recordAll (frontEnd.parseJournal path options is64)
  call (frontEnd.calls path options is64)
  demand (frontEnd.parse path)

/-- What a reconstruction works from. Types are followed as deep as the stack reaches. -/
def material (limits : Limits) (image : Image) (source : SourceFile) : Material :=
  ⟨⟨image.data, image.imageBase, image.sections⟩, source.within (limits.depth .type)⟩

/-- Reconstructs in a document, and notes in the session what was noted on the way. -/
def rebuild (material : Material) (table : QueryTable) (document : Document) :
    Step (Report × Document) := fun program =>
  let start := Reconstruction.ofDocument document program.now
  match Reconstruction.run material table start with
  | .ok report later =>
      .ok (report, later.document)
        { program with session := program.session.recordAll later.journal }
  | .error abort later =>
      .error abort { program with session := program.session.recordAll later.journal }

def save (document : Document) (binary output : Path) : Step Unit := fun program =>
  match document.save binary output program.session.files with
  | .ok _ files =>
      .ok () (recorded (document.savedEntry output)
        { program with session := { program.session with files } })
  | .error abort files =>
      .error abort { program with session := { program.session with files } }

def produce (frontEnd : FrontEnd) (plan : Plan) : Step Report := do
  let table ← loadSymbols plan.settings.symbols
  let image ← loadImage plan.binary
  let source ← parse frontEnd plan.source plan.settings.options image.is64
  let files ← files
  let empty : Document := { is64 := image.is64, imageBase := image.imageBase }
  let (report, document) ← rebuild (material files.limits image source) table empty
  let output ← demand plan.output
  save document plan.binary output
  return report

def reconstruction : Activity := ⟨"reconstruct", Channel.run⟩

def produceTimed (frontEnd : FrontEnd) (plan : Plan) : Step Report :=
  reconstruction.around recorded (fun program => .ok program.now) Abort.message
    (produce frontEnd plan)

def openLog (settings : Settings) : Step Unit := fun program =>
  match Session.openLog settings.logDirectory settings.verbose program.session with
  | .ok _ session => .ok () { program with session }
  | .error error session => .error (.ofFileError error) { program with session }

def debugEntry (text : String) : Entry := ⟨.debug, Channel.commandLine, text⟩

def infoEntry (text : String) : Entry := ⟨.info, Channel.commandLine, text⟩

def planJournal (plan : Plan) : Journal :=
  let symbols := match plan.settings.symbols with
    | none => "None"
    | some path => path.text
  [debugEntry s!"Binary: {plan.binary.text}", debugEntry s!"Source: {plan.source.text}",
    debugEntry s!"Symbol config: {symbols}"]

def ruler : String := String.ofList (List.replicate 70 '=')

def summary (report : Report) (output : Path) : Journal :=
  [ruler, "RECONSTRUCTION SUMMARY", ruler, s!"Structs: {report.structs.length}",
    s!"Function prototypes: {report.prototypes.length}",
    s!"Functions located: {report.functions.length}",
    s!"Globals located: {report.globals.length}", s!"Warnings: {report.warnings.length}",
    s!"Output: {output.text}"].map infoEntry

def fatalEntry (cause : Failure) : Entry :=
  ⟨.error, Channel.commandLine, s!"Fatal error: {cause.message}"⟩

/-- The reconstruction with its report; a failure of it becomes a status. -/
def report (frontEnd : FrontEnd) (plan : Plan) : Step ExitStatus := fun program =>
  match produceTimed frontEnd plan program with
  | .error (.failure cause) later => .ok .failure (recorded (fatalEntry cause) later)
  | .error abort later => .error abort later
  | .ok report later =>
      match plan.output with
      | .error abort => .error abort later
      | .ok output =>
          .ok .success { later with session := later.session.recordAll (summary report output) }

def carryOut (frontEnd : FrontEnd) (plan : Plan) : Step ExitStatus := do
  openLog plan.settings
  recordAll (planJournal plan)
  report frontEnd plan

def proceed (invocation : Invocation) (options : Options) : Step ExitStatus := do
  let files ← files
  let loading := Settings.loadDefault files invocation.environment
  recordAll loading.journal
  match plan files options loading.settings with
  | .ok plan => carryOut invocation.frontEnd plan
  | .error abort =>
      if abort.isBadValue then do
        printError s!"Configuration error: {abort.message}\n"
        return .failure
      else throw abort

def start (invocation : Invocation) : Step ExitStatus :=
  match Options.ofTokens invocation.tokens with
  | .ok options => proceed invocation options
  | .error .help => do
      print (Options.help invocation.program)
      return .success
  | .error (.misuse misuse) => do
      printError (Options.misuseText invocation.program misuse)
      return .misuse

def activity : Activity := ⟨"main", Channel.commandLine⟩

/-- A run of the program. Only its start and an end without a status are noted. -/
def run (invocation : Invocation) : Step ExitStatus := fun program =>
  let begun := program.now
  match start invocation (recorded activity.startedEntry program) with
  | .ok status later => .ok status later
  | .error abort later =>
      .error abort (recorded (activity.failedEntry begun later.now abort.message) later)

end Program

end DebugRecovery
