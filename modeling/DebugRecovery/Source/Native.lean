import DebugRecovery.Abort
import DebugRecovery.Journal
import DebugRecovery.Source.Tree

/-!
The nodes of the C front end and what they report. The front end marks missing
information by invalid kinds, empty names and negative numbers; in a report each
of these is `none`. Arguments are reported of function prototypes only, members
of records only.
-/

set_option autoImplicit false

namespace DebugRecovery.Source

/-- A place in a source file; no file is an unknown one. -/
structure Location where
  file : Option String
  line : Int
  column : Int
  deriving DecidableEq, Repr

def Location.text (location : Location) : String :=
  let file := location.file.getD "<unknown>"
  s!"{file}:{location.line}:{location.column}"

mutual

/-- A type node; without a canonical type it is its own. -/
structure NativeType where
  kind : String
  spelling : String
  size : Int
  canonical : Option NativeType
  element : Option NativeType
  pointee : Option NativeType
  result : Option NativeType
  arguments : List NativeType
  convention : Int
  fields : List NativeCursor
  offsets : List (String × Int)
  declaration : Option NativeCursor

structure NativeCursor where
  kind : String
  spelling : String
  displayName : String
  type : Option NativeType
  location : Location
  inSystemHeader : Bool
  isDefinition : Bool

end

def nonempty? (name : String) : Option String := if name.isEmpty then none else some name

def nonnegative? (number : Int) : Option Int := if number < 0 then none else some number

def DeclarationKind.ofCursorKind (kind : String) : DeclarationKind :=
  match kind with
  | "FUNCTION_DECL" => .function
  | "STRUCT_DECL" => .struct
  | "VAR_DECL" => .variable
  | "FIELD_DECL" => .variable
  | _ => .other

def ConventionReport.ofNumber (number : Int) : ConventionReport :=
  match Convention.ofNumber? number with
  | some convention => .known convention
  | none => .unknown number

def invalidKind : String := "INVALID"

def prototypeKind : String := "FUNCTIONPROTO"

def recordKind : String := "RECORD"

def noDeclarationKind : String := "NO_DECL_FOUND"

mutual

def NativeType.report : NativeType → CType
  | ⟨kind, spelling, size, canonical, element, pointee, result, arguments, convention, fields,
      offsets, declaration⟩ =>
      { kind := .ofName kind
        spelling
        canonical := reportOption canonical
        element := reportValid element
        size := nonnegative? size
        pointee := reportValid pointee
        declaration := reportFound declaration
        result := reportValid result
        arguments := if kind == prototypeKind then some (reportTypes arguments) else none
        convention := .ofNumber convention
        fields := if kind == recordKind then some (reportCursors fields) else none
        offsets := offsets.filter fun offset => 0 ≤ offset.2 }

def NativeCursor.report : NativeCursor → Declaration
  | ⟨kind, spelling, displayName, type, location, inSystemHeader, _⟩ =>
      { kind := .ofCursorKind kind
        displayName := nonempty? displayName
        linkageName := nonempty? spelling
        location := location.text
        inSystemHeader
        type := reportValid type }

def reportOption : Option NativeType → Option CType
  | none => none
  | some type => some type.report

/-- A type of the invalid kind is none. -/
def reportValid : Option NativeType → Option CType
  | none => none
  | some type => if type.kind == invalidKind then none else some type.report

/-- A cursor of the kind for missing declarations is none. -/
def reportFound : Option NativeCursor → Option Declaration
  | none => none
  | some cursor => if cursor.kind == noDeclarationKind then none else some cursor.report

def reportTypes : List NativeType → List CType
  | [] => []
  | type :: types => type.report :: reportTypes types

def reportCursors : List NativeCursor → List Declaration
  | [] => []
  | cursor :: cursors => cursor.report :: reportCursors cursors

end

/-- How a type node shows itself. -/
def NativeType.shown (type : NativeType) : String :=
  s!"ClangType({Text.quoted type.spelling}, {type.kind})"

/-- How a declaration shows itself. -/
def NativeCursor.shown (cursor : NativeCursor) : String :=
  let name := match nonempty? cursor.displayName with
    | none => "None"
    | some name => Text.quoted name
  s!"ClangDeclaration({name} at {cursor.location.text})"

structure NativeDiagnostic where
  severity : Int
  spelling : String
  location : Location
  deriving DecidableEq, Repr

/-- A parsed file as the front end holds it: its top-level cursors and diagnostics. -/
structure NativeUnit where
  cursors : List NativeCursor
  diagnostics : List NativeDiagnostic

namespace NativeUnit

def diagnostic (native : NativeDiagnostic) : Except Abort Diagnostic :=
  match Severity.ofRank? native.severity with
  | some severity => .ok ⟨severity, s!"{native.location.text}: {native.spelling}"⟩
  | none => .error (.value s!"{native.severity} is not a valid DiagnosticSeverity")

/-- Of a struct only the definition counts, since nothing else has a layout. -/
def isLaidOut (cursor : NativeCursor) : Bool :=
  DeclarationKind.ofCursorKind cursor.kind != .struct || cursor.isDefinition

/-- The cursors of one kind outside of system headers. -/
def ofKind (unit : NativeUnit) (kind : DeclarationKind) : List NativeCursor :=
  unit.cursors.filter fun cursor =>
    DeclarationKind.ofCursorKind cursor.kind == kind && !cursor.inSystemHeader && isLaidOut cursor

def report (unit : NativeUnit) : Except Abort SourceFile := do
  let diagnostics ← unit.diagnostics.mapM diagnostic
  .ok ⟨reportCursors (unit.cursors.filter isLaidOut), diagnostics⟩

end NativeUnit

/-- The C front end: it may be missing, refuse a file, or hand out a parsed one. -/
inductive FrontEnd where
  | missing (reason : String)
  | refuses (reason : String)
  | parses (unit : NativeUnit)

/-- A request to the front end: the file and the options for it. -/
structure ParseCall where
  path : Path
  options : List String
  deriving DecidableEq, Repr

namespace FrontEnd

/-- On a 32-bit image the source is parsed for a 32-bit target. -/
def parseOptions (options : List String) (is64 : Bool) : List String :=
  if is64 then options else options ++ ["-m32"]

/-- The requests that reach the front end. -/
def calls (frontEnd : FrontEnd) (path : Path) (options : List String) (is64 : Bool) :
    List ParseCall :=
  match frontEnd with
  | .missing _ => []
  | _ => [⟨path, parseOptions options is64⟩]

def parseJournal (frontEnd : FrontEnd) (path : Path) (options : List String) (is64 : Bool) :
    Journal :=
  (frontEnd.calls path options is64).map fun call =>
    ⟨.debug, Channel.source,
      s!"Parsing {call.path.text} with args {Text.quotedList call.options}"⟩

def parse (frontEnd : FrontEnd) (path : Path) : Except Abort SourceFile :=
  match frontEnd with
  | .missing reason => .error (.failure (.source s!"libclang could not be loaded: {reason}"))
  | .refuses reason => .error (.failure (.source s!"{path.text}: {reason}"))
  | .parses unit => unit.report

end FrontEnd

end DebugRecovery.Source
