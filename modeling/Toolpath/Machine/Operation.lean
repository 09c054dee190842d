/-
Toolpath/Machine/Operation.lean

The sums and differences that are computed for the registers of a machine.  Numbers can have
a sum that is too large for a double, and infinite positions one that is undefined; the
arithmetic then says so, once for each place where it happens (`AppliedStep.remark`).
-/
import Toolpath.Machine.Step

namespace Toolpath

namespace Machine

/-! ### Operations -/

/-- Where the machine adds or subtracts. -/
inductive Place
  | absoluteMove
  | relativeMove
  | rebase
  deriving DecidableEq, Repr

/-- One addition or subtraction. -/
structure Operation where
  place : Place
  left : Float
  right : Float
  deriving DecidableEq

/-- What an operation gives. -/
def Operation.result (o : Operation) : Float :=
  match o.place with
  | .absoluteMove => o.left + o.right
  | .relativeMove => o.left + o.right
  | .rebase => o.left - o.right

/-- A position is added to the origin, and a distance to the old position. -/
def moveOperation (m : Machine) (i : Axis) (v : Float) : Operation :=
  if m.absolute.get i then ⟨.absoluteMove, m.origin.get i, v⟩
  else ⟨.relativeMove, m.position.get i, v⟩

/-- The value that the position is to have is taken away from it. -/
def rebaseOperation (m : Machine) (i : Axis) (v : Float) : Operation :=
  ⟨.rebase, m.position.get i, v⟩

/-- A move leads to the result of its operation. -/
theorem result_moveOperation (m : Machine) (i : Axis) (v : Float) :
    (m.moveOperation i v).result = (m.moveAxis i v).position.get i := by
  rw [get_position_moveAxis, if_pos rfl, moveOperation, target]
  split <;> rfl

/-- And so does a change of origin. -/
theorem result_rebaseOperation (m : Machine) (i : Axis) (v : Float) :
    (m.rebaseOperation i v).result = (m.rebaseAxis i v).origin.get i := by
  rw [get_origin_rebaseAxis, if_pos rfl]
  rfl

/-! ### Faults -/

/-- What can be wrong with a result. -/
inductive Fault
  | overflow
  | invalid
  deriving DecidableEq, Repr

/-- What is wrong with a result: that it is infinite and the operands are finite, or that it is
undefined and they are not. -/
def Operation.fault? (o : Operation) : Option Fault :=
  if o.result.isInf && o.left.isFinite && o.right.isFinite then some .overflow
  else if o.result.isNaN && !o.left.isNaN && !o.right.isNaN then some .invalid
  else none

/-- What is said about a fault. -/
def Fault.text (f : Fault) (p : Place) : Text :=
  let kind := match f with
    | .overflow => "overflow"
    | .invalid => "invalid value"
  let operation := match p with
    | .absoluteMove => "add"
    | .relativeMove => "add"
    | .rebase => "subtract"
  "RuntimeWarning: ".toList ++ kind.toList ++ " encountered in scalar ".toList ++ operation.toList

namespace AppliedStep

/-- The operation of a change, if it has one. -/
def operation? (x : AppliedStep) : Option Operation :=
  match x.step with
  | .moveAxis i v => some (x.before.moveOperation i v)
  | .rebaseAxis i v => some (x.before.rebaseOperation i v)
  | _ => none

/-- What goes wrong in a change, and where. -/
def fault? (x : AppliedStep) : Option (Fault × Place) :=
  x.operation?.bind fun o => o.fault?.map fun f => (f, o.place)

/-- The remark about a change.  A fault is told of once for each place; the changes before this
one are given with the last one first. -/
def remark (earlier : List AppliedStep) (x : AppliedStep) : List Text :=
  match x.fault? with
  | none => []
  | some (f, p) => if earlier.any (·.fault? = some (f, p)) then [] else [f.text p]

section Remark

variable {earlier : List AppliedStep} {x : AppliedStep} {f : Fault} {p : Place}

theorem remark_of_no_fault (h : x.fault? = none) : remark earlier x = [] := by
  rw [remark, h]

theorem remark_of_fault (h : x.fault? = some (f, p)) :
    remark earlier x = if (f, p) ∈ earlier.filterMap fault? then [] else [f.text p] := by
  have told : (earlier.any (·.fault? = some (f, p))) = true
      ↔ (f, p) ∈ earlier.filterMap fault? := by
    simp [List.any_eq_true, List.mem_filterMap]
  simp only [remark, h, told]

end Remark

end AppliedStep

end Machine

end Toolpath
