import DebugRecovery.Journal
import DebugRecovery.Text.Fixed

/-!
Instants, and the timing of activities. An instant counts seconds in a float,
which has no room for all counts of milliseconds; the journal shows how long an
activity took until it was done or failed.
-/

set_option autoImplicit false

namespace DebugRecovery

structure Instant where
  seconds : Float

namespace Instant

def origin : Instant := ⟨0⟩

def secondsOf : Int → Float
  | .ofNat milliseconds => Float.ofScientific milliseconds true 3
  | .negSucc milliseconds => -Float.ofScientific (milliseconds + 1) true 3

/-- The instant that lies so many milliseconds after the origin, if a float can tell it. -/
def ofMilliseconds? (milliseconds : Int) : Option Instant :=
  let seconds := secondsOf milliseconds
  if Text.isFinite seconds then some ⟨seconds⟩ else none

/-- The seconds from one instant to another, with the given count of places. -/
def elapsed (start stop : Instant) (places : Nat) : String :=
  Text.fixed places (stop.seconds - start.seconds)

end Instant

/-- An activity whose duration the journal shows. -/
structure Activity where
  name : String
  channel : String
  deriving DecidableEq, Repr

namespace Activity

def startedEntry (activity : Activity) : Entry :=
  ⟨.debug, activity.channel, s!"Starting {activity.name}"⟩

def completedEntry (activity : Activity) (start stop : Instant) : Entry :=
  ⟨.debug, activity.channel, s!"Completed {activity.name} in {start.elapsed stop 2}s"⟩

def failedEntry (activity : Activity) (start stop : Instant) (reason : String) : Entry :=
  ⟨.error, activity.channel, s!"Failed {activity.name} after {start.elapsed stop 2}s: {reason}"⟩

/-- An action as an activity: its start and its end are noted, and what becomes of it does not
change unless the clock fails. -/
def around {Error State Value : Type} (activity : Activity) (note : Entry → State → State)
    (now : State → Except Error Instant) (reason : Error → String)
    (action : EStateM Error State Value) : EStateM Error State Value := fun state =>
  let begun := note activity.startedEntry state
  match now begun with
  | .error failure => .error failure begun
  | .ok start =>
      match action begun with
      | .ok value later =>
          match now later with
          | .error failure => .error failure later
          | .ok stop => .ok value (note (activity.completedEntry start stop) later)
      | .error error later =>
          match now later with
          | .error failure => .error failure later
          | .ok stop => .error error (note (activity.failedEntry start stop (reason error)) later)

end Activity

end DebugRecovery
