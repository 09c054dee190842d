/-
Toolpath/Device/Announcer.lean

A device without a machine says in the log what it was told, and does nothing else.  After a
word that was handed over it drops the rest of the line.

A device with a use for moves only is like it in all the rest (`Device.ofMoves`).
-/
import Toolpath.Device.Basic
import Toolpath.Number.Fixed

namespace Toolpath

namespace Announcer

/-- A position in the log, with its first four axes. -/
def positionText (p : PerAxis Float) : Text :=
  "move(X=".toList ++ Fixed.write 3 p.x ++ ",Y=".toList ++ Fixed.write 3 p.y
    ++ ",Z=".toList ++ Fixed.write 3 p.z ++ ",E=".toList ++ Fixed.write 3 p.e
    ++ ",...)".toList

/-- What is said about an action. -/
def message : Action → Text
  | .rapidMove target => positionText target
  | .coordinatedMove target => positionText target
  | .setFeedrate v => "set_feedrate(".toList ++ Fixed.write 2 v ++ [')']
  | .setTemperature v => "set_temperature(".toList ++ Fixed.write 1 v ++ [')']
  | .setFanSpeed v => "set_fanspeed(".toList ++ Fixed.write 0 v ++ [')']
  | .waitTemperature => "wait_temperature()".toList
  | .disableMotors => "disable_motors()".toList
  | .goHome axes => "go_home(".toList ++ axes.maskText ++ [')']
  | .handOver w =>
    "unprocessed('".toList ++ w.letter ++ "', ".toList ++ Significant.write w.value
      ++ ", '".toList ++ w.rest ++ "')".toList

/-- A word that was handed over is worth a warning. -/
def severity : Action → Severity
  | .handOver _ => .warning
  | _ => .info

/-- The entry for an action. -/
def entry (a : Action) : LogEntry :=
  ⟨severity a, message a⟩

end Announcer

/-- A device that receives the targets of all moves, rapid or not, and announces everything
else.  What the log says about a move is given by `tells`. -/
def Device.ofMoves {σ : Type} (receive : PerAxis Float → σ → σ)
    (tells : PerAxis Float → List LogEntry) : Device σ where
  accept a s :=
    match a.target? with
    | some target => receive target s
    | none => s
  resume _ _ := none
  entries a :=
    match a.target? with
    | some target => tells target
    | none => [Announcer.entry a]
  length_resume_le h := nomatch h

/-- The device that only announces: it has no use for moves, either. -/
def announcer : Device Unit :=
  Device.ofMoves (fun _ s => s) fun target => [Announcer.entry (.coordinatedMove target)]

end Toolpath
