/-
Toolpath/Device/Recorder.lean

A device that keeps every action in order.  Words that were handed over are kept too, and
reading goes on right after them.
-/
import Toolpath.Device.Basic

namespace Toolpath

/-- The actions a recorder was given, in order. -/
abbrev Recording := Array Action

/-- The device that records. -/
def recorder : Device Recording where
  accept a s := s.push a
  resume w _ := some w.rest
  entries _ := []
  length_resume_le h := Option.some.inj h ▸ Nat.le_refl _

namespace Recording

/-- The recorded actions that are listed under a name. -/
def named (r : Recording) (name : String) : List Action :=
  r.toList.filter (·.name == name)

/-- The recording emptied. -/
def clear (_ : Recording) : Recording := #[]

end Recording

/-- What is recorded is the actions in their order. -/
theorem toList_acceptAll_recorder (as : List Action) (r : Recording) :
    (recorder.acceptAll as r).toList = r.toList ++ as := by
  induction as generalizing r with
  | nil => exact (List.append_nil _).symm
  | cons a as ih =>
      rw [Device.acceptAll_cons, ih]
      show (r.push a).toList ++ as = _
      rw [Array.toList_push, List.append_assoc]
      rfl

end Toolpath
