/-
Toolpath/Device/ToolChanger.lean

A recorder with a tool changer beside it.  The words that choose a tool are the tool
changer's, with all that follows them up to the next command; they are not recorded.
-/
import Toolpath.Device.Recorder

namespace Toolpath

namespace ToolChanger

/-- Whether a word chooses a tool. -/
def isToolWord (w : Word) : Bool :=
  w.letter = ['T']

end ToolChanger

/-- The device that records what is not for the tool changer.  After a word that chooses a
tool, reading goes on at the next `G`. -/
def toolChanger : Device Recording where
  accept a s :=
    match a with
    | .handOver w => if ToolChanger.isToolWord w then s else s.push a
    | _ => s.push a
  resume w _ := some (if ToolChanger.isToolWord w then w.rest.dropWhile (· != 'G') else w.rest)
  entries _ := []
  length_resume_le {w s t} h := by
    cases h
    show (if ToolChanger.isToolWord w then w.rest.dropWhile (· != 'G') else w.rest).length ≤ _
    split
    · exact (List.dropWhile_suffix _).length_le
    · exact Nat.le_refl _

end Toolpath
