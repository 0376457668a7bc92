import DebugRecovery.Clock

/-!
The progress of a run: the operations that are going on, the innermost first,
and counts of what the run has handled so far.
-/

set_option autoImplicit false

namespace DebugRecovery

structure Operation where
  name : String
  start : Instant

structure Counts where
  structs : Int := 0
  prototypes : Int := 0
  symbols : Int := 0
  warnings : Int := 0
  deriving DecidableEq, Repr

structure Progress where
  start : Instant
  operations : List Operation := []
  counts : Counts := {}

namespace Progress

/-- The names of the operations going on, the outermost first. -/
def context (progress : Progress) : String :=
  match progress.operations with
  | [] => "idle"
  | operations => " -> ".intercalate (operations.reverse.map Operation.name)

def enter (progress : Progress) (name : String) (now : Instant) : Progress :=
  { progress with operations := ⟨name, now⟩ :: progress.operations }

/-- The innermost operation is over. -/
def leave (progress : Progress) : Progress :=
  { progress with operations := progress.operations.drop 1 }

theorem leave_enter (progress : Progress) (name : String) (now : Instant) :
    (progress.enter name now).leave = progress := rfl

def addStructs (progress : Progress) (count : Int) : Progress :=
  { progress with counts.structs := progress.counts.structs + count }

def addPrototypes (progress : Progress) (count : Int) : Progress :=
  { progress with counts.prototypes := progress.counts.prototypes + count }

def addSymbols (progress : Progress) (resolved warnings : Int) : Progress :=
  { progress with
    counts.symbols := progress.counts.symbols + resolved
    counts.warnings := progress.counts.warnings + warnings }

def enteredEntry (name : String) : Entry :=
  ⟨.debug, Channel.run, s!"Starting operation: {name}"⟩

/-- The entry for the end of the innermost operation. -/
def completedNote (progress : Progress) (now : Instant) : Journal :=
  match progress.operations with
  | [] => []
  | operation :: _ =>
      [⟨.debug, Channel.run,
        s!"Completed operation: {operation.name} in {operation.start.elapsed now 3}s"⟩]

/-- The entry for a failure inside the innermost operation. -/
def failedNote (progress : Progress) (now : Instant) (reason : String) : Journal :=
  match progress.operations with
  | [] => []
  | operation :: _ =>
      [⟨.error, Channel.run,
        s!"Failed operation: {progress.context} after {operation.start.elapsed now 3}s: {reason}"⟩]

def summaryEntry (progress : Progress) (now : Instant) : Entry :=
  let counts := progress.counts
  ⟨.info, Channel.run,
    s!"Reconstruction complete: {counts.structs} structs, {counts.prototypes} prototypes, " ++
      s!"{counts.symbols} symbols, {counts.warnings} warnings in " ++
      s!"{progress.start.elapsed now 2}s"⟩

end Progress

end DebugRecovery
