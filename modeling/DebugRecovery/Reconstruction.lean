import DebugRecovery.Association
import DebugRecovery.Document
import DebugRecovery.Layout
import DebugRecovery.Lookup
import DebugRecovery.Progress

/-!
Reconstruction of debug information from a parsed source and an image. A run
checks the diagnostics, enters structs and prototypes into the document, and
places functions and globals. A failure keeps what was entered before it; a
symbol that cannot be located costs a warning.
-/

set_option autoImplicit false

namespace DebugRecovery

open Source

/-- What a run works from. -/
structure Material where
  territory : Territory
  source : SourceFile

/-- What a run entered into the document, and its warnings. -/
structure Report where
  structs : List StructLayout
  prototypes : List (String × Nat)
  functions : List (Symbol Nat)
  globals : List (Symbol DebugType)
  warnings : List LookupFailure

/-- A reconstruction in progress. -/
structure Reconstruction where
  document : Document
  progress : Progress
  now : Instant
  journal : Journal := []

def Reconstruction.ofDocument (document : Document) (now : Instant) : Reconstruction :=
  { document, progress := { start := now }, now }

namespace Reconstruction

abbrev Step := EStateM Abort Reconstruction

def note (entries : Journal) : Step Unit :=
  modify fun state => { state with journal := state.journal ++ entries }

def noted (entry : Entry) (state : Reconstruction) : Reconstruction :=
  { state with journal := state.journal ++ [entry] }

def count (change : Progress → Progress) : Step Unit :=
  modify fun state => { state with progress := change state.progress }

/-- Enters something into the document, unless the document refuses it. -/
def enter (insert : Document → Except Failure Document) : Step Unit := fun state =>
  match insert state.document with
  | .error cause => .error (.failure cause) state
  | .ok document => .ok () { state with document }

/-- An action as the innermost operation, which is over when the action is. -/
def track {Value : Type} (name : String) (action : Step Value) : Step Value := fun state =>
  let entered := { state with progress := state.progress.enter name state.now }
  match action (noted (Progress.enteredEntry name) entered) with
  | .ok value later =>
      .ok value { later with
        progress := later.progress.leave
        journal := later.journal ++ later.progress.completedNote later.now }
  | .error abort later =>
      .error abort { later with
        progress := later.progress.leave
        journal := later.journal ++ later.progress.failedNote later.now abort.message }

def isError (diagnostic : Diagnostic) : Bool := Severity.error.rank ≤ diagnostic.severity.rank

def diagnosticEntry (diagnostic : Diagnostic) : Entry :=
  ⟨if isError diagnostic then .error else .warning, Channel.run, diagnostic.message⟩

def repairEntry : Entry := ⟨.info, Channel.run, "Please fix these errors before continuing!"⟩

/-- No run goes on after a diagnostic that is an error. -/
def reviewDiagnostics (source : SourceFile) : Step Unit := do
  note (source.diagnostics.map diagnosticEntry)
  match source.diagnostics.filter isError with
  | [] => pure ()
  | first :: others =>
      note [repairEntry]
      throw (.failure (.source
        s!"{others.length + 1} error(s) in source, first: {first.message}"))

def enterStruct (declaration : Declaration) : Step StructLayout := do
  let built := StructLayout.ofDeclaration declaration
  note (layoutJournal built)
  match built with
  | .error defect => throw defect.abort
  | .ok layout => do
      enter fun document => document.addStruct layout
      return layout

def structsEntry (number : Nat) : Entry :=
  ⟨.info, Channel.run, s!"Parsed {number} struct definitions."⟩

def enterStructs (source : SourceFile) : Step (List StructLayout) := do
  let layouts ← (source.ofKind .struct).mapM enterStruct
  count fun progress => progress.addStructs layouts.length
  note [structsEntry layouts.length]
  return layouts

/-- The name of a function with the position of its prototype. -/
def enterPrototype (function : Prototype) : Step (String × Nat) := fun state =>
  .ok (function.name, state.document.nextPosition)
    { state with document := state.document.addPrototype function }

def functionsEntry (number : Nat) : Entry :=
  ⟨.info, Channel.run, s!"Parsed {number} function definitions."⟩

/-- Every declared function gets a prototype once all of them are known to have one. Of the
prototypes under one name the last one counts. -/
def enterPrototypes (source : SourceFile) : Step (List (String × Nat)) := do
  match (source.ofKind .function).mapM Prototype.ofDeclaration with
  | .error defect => do
      note defect.journal
      throw defect.abort
  | .ok functions => do
      let positions ← functions.mapM enterPrototype
      let prototypes := Association.ofPairs positions
      count fun progress => progress.addPrototypes prototypes.length
      note [functionsEntry functions.length]
      return prototypes

/-- The name and type of a variable that has both. -/
def typedName? (declaration : Declaration) : Option (String × CType) :=
  match named? declaration.displayName, declaration.type with
  | some name, some type => some (name, type)
  | _, _ => none

def typedGlobal (named : String × CType) : Except TypeDefect (String × DebugType) :=
  (Meaning.type named.2).map fun type => (named.1, type)

def globalsEntry (number : Nat) : Entry :=
  ⟨.info, Channel.run, s!"Parsed {number} global variable definitions."⟩

/-- Of the variables under one name the last one counts. -/
def typeGlobals (source : SourceFile) : Step (List (String × DebugType)) := do
  match ((source.ofKind .variable).filterMap typedName?).mapM typedGlobal with
  | .error defect => do
      note defect.journal
      throw defect.abort
  | .ok pairs => do
      let types := Association.ofPairs pairs
      note [globalsEntry types.length]
      return types

def locate (territory : Territory) (queries : List SymbolQuery) : Step SearchResult := do
  let findings := queries.map territory.finding
  let result := SearchResult.ofOutcomes (findings.map Territory.Finding.outcome)
  note (findings.flatMap Territory.Finding.journal)
  count fun progress => progress.addSymbols result.symbols.length result.failures.length
  return result

def placeFunction (prototypes : List (String × Nat)) (symbol : Symbol Empty) :
    Step (Symbol Nat) := do
  let placed := symbol.withType (prototypes.lookup symbol.name)
  enter fun document => document.addFunction (placed.withType (placed.typeRef.map Int.ofNat))
  return placed

def placeFunctions (territory : Territory) (queries : List SymbolQuery)
    (prototypes : List (String × Nat)) : Step (List (Symbol Nat) × List LookupFailure) := do
  let result ← locate territory queries
  let functions ← result.symbols.mapM (placeFunction prototypes)
  return (functions, result.failures)

def placeGlobal (types : List (String × DebugType)) (symbol : Symbol Empty) :
    Step (Symbol DebugType) := do
  let placed := symbol.withType (types.lookup symbol.name)
  enter fun document => .ok (document.addGlobal placed)
  return placed

def placeGlobals (material : Material) (queries : List SymbolQuery) :
    Step (List (Symbol DebugType) × List LookupFailure) := do
  let types ← typeGlobals material.source
  let result ← locate material.territory queries
  let globals ← result.symbols.mapM (placeGlobal types)
  return (globals, result.failures)

def locatingEntry (table : QueryTable) : Entry :=
  ⟨.info, Channel.run,
    s!"Locating {table.size} symbols ({table.functions.length} functions, " ++
      s!"{table.globals.length} globals)."⟩

def warningEntry (failure : LookupFailure) : Entry := ⟨.warning, Channel.run, failure.message⟩

def summarize : Step Unit :=
  modify fun state => noted (state.progress.summaryEntry state.now) state

def phases (material : Material) (table : QueryTable) : Step Report := do
  track "diagnostics" (reviewDiagnostics material.source)
  let structs ← track "structs" (enterStructs material.source)
  let prototypes ← track "function prototypes" (enterPrototypes material.source)
  note [locatingEntry table]
  let (functions, lost) ← track "functions"
    (placeFunctions material.territory table.functions prototypes)
  let (globals, missing) ← track "globals" (placeGlobals material table.globals)
  let warnings := lost ++ missing
  note (warnings.map warningEntry)
  summarize
  return { structs, prototypes, functions, globals, warnings }

def activity : Activity := ⟨"DebugInfoReconstructor.run", Channel.run⟩

def run (material : Material) (table : QueryTable) : Step Report :=
  activity.around noted (fun state => .ok state.now) Abort.message (phases material table)

end Reconstruction

end DebugRecovery
