/-
Toolpath/Repetition.lean

A program read over and over by one interpreter, which is reset before each time, as when
its speed is measured.  The number of actions is that of the last time.
-/
import Toolpath.Device.Recorder
import Toolpath.Interpreter

namespace Toolpath

namespace Repetition

/-- The program read once more, by an interpreter that is reset, into an empty recording. -/
def again (lines : List Text) (i : Interpreter Recording) : Interpreter Recording :=
  Interpreter.readLines {} recorder { i.reset {} with device := #[] } lines

/-- The program read so many times, one after the other. -/
def times (lines : List Text) : Nat → Interpreter Recording → Interpreter Recording
  | 0, i => i
  | n + 1, i => times lines n (again lines i)

/-- The number of actions recorded when a program has been read `repeats` times. -/
def actionCount (program : Text) (repeats : Int) : Nat :=
  (times (Text.lines program) repeats.toNat (Interpreter.start {} #[])).device.size

end Repetition

end Toolpath
