import DebugRecovery.Abort
import DebugRecovery.Progress

/-!
A watch over a run. It keeps the time and the progress of the run, takes the
events of it one by one, and collects what they leave in the journal. An event
that needs the time fails when the clock does; an operation is left all the same.
-/

set_option autoImplicit false

namespace DebugRecovery

/-- Something that happens in a run. -/
inductive Event where
  | enter (name : String)
  | complete
  | fail (reason : String)
  | pass (milliseconds : Int)
  | structs (count : Int)
  | prototypes (count : Int)
  | symbols (resolved warnings : Int)
  | summary
  deriving DecidableEq, Repr

structure Watch where
  milliseconds : Int
  progress : Progress
  journal : Journal := []

namespace Watch

def instant (milliseconds : Int) : Except Abort Instant :=
  match Instant.ofMilliseconds? milliseconds with
  | none => .error .instant
  | some instant => .ok instant

def now (watch : Watch) : Except Abort Instant := instant watch.milliseconds

/-- A watch over a run that starts at a time. -/
def start (milliseconds : Int) : Except Abort Watch :=
  (instant milliseconds).map fun start => ⟨milliseconds, { start }, []⟩

def noted (entry : Entry) (watch : Watch) : Watch :=
  { watch with journal := watch.journal ++ [entry] }

def pass (milliseconds : Int) (watch : Watch) : Watch :=
  { watch with milliseconds := watch.milliseconds + milliseconds }

abbrev Step := EStateM Abort Watch Unit

def count (change : Progress → Progress) : Step :=
  modify fun watch => { watch with progress := change watch.progress }

def enter (name : String) : Step := fun watch =>
  match watch.now with
  | .error failure => .error failure watch
  | .ok now =>
      .ok () (noted (Progress.enteredEntry name)
        { watch with progress := watch.progress.enter name now })

/-- Leaves the innermost operation with a note about its end. -/
def leave (note : Progress → Instant → Journal) : Step := fun watch =>
  let left := { watch with progress := watch.progress.leave }
  match watch.now with
  | .error failure => .error failure left
  | .ok now => .ok () { left with journal := left.journal ++ note watch.progress now }

def summarize : Step := fun watch =>
  match watch.now with
  | .error failure => .error failure watch
  | .ok now => .ok () (noted (watch.progress.summaryEntry now) watch)

/-- What an event does to the watch. -/
def take : Event → Step
  | .enter name => enter name
  | .complete => leave Progress.completedNote
  | .fail reason => leave fun progress now => progress.failedNote now reason
  | .pass milliseconds => modify (pass milliseconds)
  | .structs number => count fun progress => progress.addStructs number
  | .prototypes number => count fun progress => progress.addPrototypes number
  | .symbols resolved warnings => count fun progress => progress.addSymbols resolved warnings
  | .summary => summarize

end Watch

end DebugRecovery
