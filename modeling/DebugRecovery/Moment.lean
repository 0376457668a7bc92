/-!
Moments of the calendar and how file names and log lines write them.
-/

set_option autoImplicit false

namespace DebugRecovery

structure Moment where
  year : Nat
  month : Nat
  day : Nat
  hour : Nat
  minute : Nat
  second : Nat
  deriving DecidableEq, Repr

namespace Moment

/-- The digits of a number, with zeros before them up to a width. -/
def padded (width value : Nat) : String :=
  let digits := Nat.toDigits 10 value
  String.ofList (List.replicate (width - digits.length) '0' ++ digits)

/-- The digits of the date and of the time, with a line between them. -/
def compact (moment : Moment) : String :=
  padded 4 moment.year ++ padded 2 moment.month ++ padded 2 moment.day ++ "_" ++
    padded 2 moment.hour ++ padded 2 moment.minute ++ padded 2 moment.second

def spaced (moment : Moment) : String :=
  "-".intercalate [padded 4 moment.year, padded 2 moment.month, padded 2 moment.day] ++ " " ++
    ":".intercalate [padded 2 moment.hour, padded 2 moment.minute, padded 2 moment.second]

end Moment

end DebugRecovery
