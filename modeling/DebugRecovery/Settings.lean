import DebugRecovery.Abort
import DebugRecovery.Journal
import DebugRecovery.Settings.Expansion
import DebugRecovery.Settings.Statement
import DebugRecovery.Text.Newline
import DebugRecovery.Text.ShellWords

/-!
The settings of a run. They come from the environment, which a settings file
completes, and what is given on the command line goes before them.
-/

set_option autoImplicit false

namespace DebugRecovery

structure Settings where
  binary : Option Path := none
  source : Option Path := none
  symbols : Option Path := none
  output : Option Path := none
  options : List String := []
  verbose : Bool := false
  logDirectory : Path := .ofText "logs"
  deriving DecidableEq, Repr

namespace Settings

def unreadableEntry (line : Nat) : Entry :=
  ⟨.warning, Channel.environment,
    s!"python-dotenv could not parse statement starting at line {line}"⟩

def statementNote (line : Nat) : Statement → Journal
  | .unreadable => [unreadableEntry line]
  | _ => []

def declare (environment : Environment) (declarations : Declarations) :
    Statement → Declarations
  | .assignment name value => declarations.assign environment name value
  | _ => declarations

/-- A variable of the environment keeps its value, and no variable comes of a name without one. -/
def complete (environment : Environment) (declared : String × Option String) :
    Except Abort Environment :=
  match environment.lookup declared.1, declared.2 with
  | none, some value =>
      if declared.1.contains '\x00' || value.contains '\x00' then
        .error (.value "embedded null byte")
      else if declared.1.contains '=' then .error (.value "illegal environment variable name")
      else .ok (Association.put declared.1 value environment)
  | _, _ => .ok environment

/-- An environment, or what prevented it, and the journal of the way there. -/
structure Completion where
  environment : Except Abort Environment
  journal : Journal := []

def completeFrom (environment : Environment) (text : String) : Completion :=
  let statements := Statement.ofFile (Text.unifyNewlines text.toList)
  let declarations := (statements.map Prod.snd).foldl (declare environment) []
  ⟨declarations.foldlM complete environment,
    statements.flatMap fun statement => statementNote statement.1 statement.2⟩

/-- The variable by which the environment asks to leave settings files alone. -/
def ignoreVariable : String := "PYTHON_DOTENV_DISABLED"

def lowered (text : String) : String := String.ofList (text.toList.map Char.toLower)

/-- The long s counts as an s. -/
def folded (text : String) : String :=
  lowered (text.map fun character => if character == 'ſ' then 's' else character)

def ignoresFiles (environment : Environment) : Bool :=
  match environment.lookup ignoreVariable with
  | none => false
  | some value => ["1", "true", "t", "yes", "y"].contains (folded value)

def ignoredEntry : Entry :=
  ⟨.debug, Channel.environment,
    s!"python-dotenv: .env loading disabled by {ignoreVariable} environment variable"⟩

/-- The environment with what a settings file adds. Only a regular file is read. -/
def completion (files : FileTree) (environment : Environment) (path : Path) : Completion :=
  match files.find? path with
  | .error error => ⟨.error (.file error), []⟩
  | .ok none => ⟨.ok environment, []⟩
  | .ok (some node) =>
      if ignoresFiles environment then ⟨.ok environment, [ignoredEntry]⟩
      else match node with
        | .file _ =>
            match files.read path with
            | .error error => ⟨.error (.file error), []⟩
            | .ok content =>
                match Text.Utf8.decode content with
                | .error fault => ⟨.error (.encoding fault), []⟩
                | .ok text => completeFrom environment text
        | _ => ⟨.ok environment, []⟩

/-- The settings file of the working directory. -/
def defaultFile (files : FileTree) : Except FileError Path :=
  files.currentPath.map fun directory => directory.child ".env"

/-- The path that a variable holds, unless it is empty. -/
def pathVariable (environment : Environment) (name : String) : Option Path :=
  match environment.lookup name with
  | none => none
  | some value => if value.isEmpty then none else some (.ofText value)

def ofEnvironment (environment : Environment) : Except Abort Settings :=
  match Text.ShellWords.split ((environment.lookup "CLANG_ARGS").getD "") with
  | .error fault => .error (.value fault.message)
  | .ok options =>
      let verbose := (environment.lookup "VERBOSE").getD "false"
      .ok { binary := pathVariable environment "BINARY_FILE_PATH"
            source := pathVariable environment "SOURCE_FILE_PATH"
            symbols := pathVariable environment "SYMBOL_CONFIG_PATH"
            output := pathVariable environment "OUTPUT_PATH"
            options
            verbose := ["true", "1", "yes"].contains (lowered verbose)
            logDirectory := .ofText ((environment.lookup "LOG_DIR").getD "logs") }

/-- Settings, or what prevented them, and the journal of the way there. -/
structure Loading where
  settings : Except Abort Settings
  journal : Journal

def load (files : FileTree) (environment : Environment) (path : Path) : Loading :=
  let completion := completion files environment path
  ⟨completion.environment.bind ofEnvironment, completion.journal⟩

/-- Settings with the file of the working directory, unless that is gone. -/
def loadDefault (files : FileTree) (environment : Environment) : Loading :=
  match defaultFile files with
  | .error error => ⟨.error (.file error), []⟩
  | .ok path => load files environment path

/-- What is given besides the environment. -/
structure Given where
  binary : Option Path := none
  source : Option Path := none
  symbols : Option Path := none
  output : Option Path := none
  options : List String := []
  verbose : Bool := false
  deriving DecidableEq, Repr

def withoutDoubleQuotes (text : String) : String :=
  String.ofList (text.toList.filter (· != '"'))

/-- What is given replaces paths, adds options and turns verbosity on. -/
def override (settings : Settings) (given : Given) : Settings where
  binary := given.binary.or settings.binary
  source := given.source.or settings.source
  symbols := given.symbols.or settings.symbols
  output := given.output.or settings.output
  options := settings.options ++ given.options.map withoutDoubleQuotes
  verbose := settings.verbose || given.verbose
  logDirectory := settings.logDirectory

/-- A path that has to lead to a file, or what else is told of it. -/
def fileAt (files : FileTree) (path : Path) (otherwise : String) : Except Abort Path :=
  match files.isFile path with
  | .error error => .error (.file error)
  | .ok true => .ok path
  | .ok false => .error (.value s!"{otherwise} not found: {path.text}")

/-- The path of an input, which has to be given and to be a file. -/
def input (files : FileTree) (label : String) (path : Option Path) : Except Abort Path :=
  match path with
  | none => .error (.value s!"{label} file not specified")
  | some path => fileAt files path s!"{label} file"

def symbolsInput (files : FileTree) (path : Option Path) : Except Abort Unit := do
  let _ ← path.mapM fun path => fileAt files path "Symbol config"

/-- The binary and the source of settings whose inputs are all there. -/
def inputs (settings : Settings) (files : FileTree) : Except Abort (Path × Path) := do
  let binary ← input files "Binary" settings.binary
  let source ← input files "Source" settings.source
  symbolsInput files settings.symbols
  .ok (binary, source)

def outputEnding : String := ".debuginfo.json"

/-- The output is named after the binary, unless it has a path of its own. -/
def outputPath (settings : Settings) : Except Abort Path :=
  match settings.output, settings.binary with
  | some output, _ => .ok output
  | none, none => .error (.value "Binary file not specified")
  | none, some binary =>
      match binary.extended? outputEnding with
      | some output => .ok output
      | none => .error (.value s!"PosixPath({binary.quoted}) has an empty name")

end Settings

end DebugRecovery
