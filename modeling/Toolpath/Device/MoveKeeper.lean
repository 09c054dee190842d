/-
Toolpath/Device/MoveKeeper.lean

A device that has a use for moves only.  Rapid moves are moves to it like all others; what
it has no use for it announces.
-/
import Toolpath.Device.Announcer

namespace Toolpath

/-- A device that keeps the targets of all moves and announces everything else. -/
def moveKeeper : Device (Array (PerAxis Float)) :=
  Device.ofMoves (fun target s => s.push target) fun _ => []

end Toolpath
