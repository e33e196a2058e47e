import RecordQuery.Command.Run
import Std.Time.Zoned

/-!
# The program

Reads the clock and, where the command line brings no documents, the standard input; prints
what the command leaves.
-/

set_option autoImplicit false

namespace RecordQuery

/-- The point in time that the clock of the place shows. -/
def wallClock : IO DateTime := do
  let now ← Std.Time.PlainDateTime.now
  let nanoseconds := now.toWallTime.toNanoseconds.val
  let (time, days) := TimeOfDay.ofNanoseconds nanoseconds
  match Date.ofDay? days with
  | some date => return ⟨date, time⟩
  | none => throw (IO.userError "the clock is out of range")

/-- The text on the standard input, unless a person would have to type it. -/
def pipedText : IO (Option String) := do
  let input ← IO.getStdin
  if ← input.isTty then return none
  else return some (← input.readToEnd)

end RecordQuery

/-- Runs the program and exits with its code. -/
def main (arguments : List String) : IO UInt32 := do
  let now ← RecordQuery.wallClock
  let piped ←
    match RecordQuery.Command.ofArguments? arguments with
    | some (.check _ none) | some (.filter _ none _) => RecordQuery.pipedText
    | _ => pure none
  let outcome := RecordQuery.Command.answer now piped arguments
  IO.print outcome.output
  IO.eprint outcome.errors
  return UInt32.ofNat outcome.exitCode
