/-
Toolpath/Proofs/Separation.lean

The axes do not interfere.  What a course of changes does to an axis can be followed on the three
registers of that axis: a change addressed to another axis passes over them, and a change for the
whole machine acts on each axis by itself (`registersOf_apply`).  So an axis ends at the same
registers, and its moves answer the same, when the changes addressed to other axes are left out of
the course, or moved about in it (`follows_own_steps`).
-/
import Toolpath.Machine.Step

namespace Toolpath

/-! ### The registers of one axis -/

/-- What the machine holds for one axis. -/
structure AxisRegisters where
  absolute : Bool
  origin : Float
  position : Float
  deriving DecidableEq

namespace AxisRegisters

/-- The position that the number `v` means. -/
def target (r : AxisRegisters) (v : Float) : Float :=
  if r.absolute then r.origin + v else r.position + v

/-- The registers after a change that concerns the axis. -/
def apply (r : AxisRegisters) : Machine.Step → AxisRegisters
  | .moveAxis _ v => { r with position := r.target v }
  | .rebaseAxis _ v => { r with origin := r.position - v }
  | .setAbsolute _ b => { r with absolute := b }
  | .setAllAbsolute b => { r with absolute := b }
  | .setUnitScale _ => r
  | .setFeedrate _ => r
  | .home => { r with origin := 0.0, position := 0.0 }
  | .reset => ⟨true, 0.0, 0.0⟩

/-- What a change addressed to the axis answers. -/
def result? (r : AxisRegisters) : Machine.Step → Option Float
  | .moveAxis _ v => some (r.target v)
  | _ => none

/-- What the moves of the axis `i` answer in a course of changes that concern it. -/
def answers (i : Axis) (r : AxisRegisters) : List Machine.Step → List Float
  | [] => []
  | s :: rest =>
    (if s.axis? = some i then (r.result? s).toList else []) ++ answers i (r.apply s) rest

end AxisRegisters

namespace Machine

namespace Step

/-- Whether the change is for the axis or for the whole machine. -/
def concerns (i : Axis) (s : Step) : Bool :=
  s.axis? = none ∨ s.axis? = some i

theorem concerns_of_axis? {i : Axis} {s : Step} (h : s.axis? = some i) : s.concerns i = true :=
  decide_eq_true (.inr h)

theorem concerns_eq_of_axis? {i j : Axis} {s : Step} (h : s.axis? = some j) :
    s.concerns i = decide (i = j) := by
  rw [concerns, h]
  simp only [reduceCtorEq, false_or, Option.some.injEq, eq_comm]

end Step

/-- The part of the registers that is for one axis. -/
def registersOf (m : Machine) (i : Axis) : AxisRegisters :=
  ⟨m.absolute.get i, m.origin.get i, m.position.get i⟩

/-- What the moves of one axis answer in a course of changes, in order. -/
def answersOf (d : Dialect) (i : Axis) (m : Machine) : List Step → List Float
  | [] => []
  | s :: rest =>
    (if s.axis? = some i then (s.result? m).toList else []) ++ answersOf d i (s.apply d m) rest

/-- Two machines that cannot be told apart by what they hold for the axis. -/
structure SameOn (i : Axis) (m m' : Machine) : Prop where
  position : m.position.get i = m'.position.get i
  origin : m.origin.get i = m'.origin.get i
  absolute : m.absolute.get i = m'.absolute.get i
  logicalPosition : m.logicalPosition.get i = m'.logicalPosition.get i

theorem SameOn.of_registersOf {i : Axis} {m m' : Machine}
    (h : m.registersOf i = m'.registersOf i) : SameOn i m m' := by
  obtain ⟨ha, ho, hp⟩ := AxisRegisters.mk.inj h
  refine ⟨hp, ho, ha, ?_⟩
  rw [Machine.logicalPosition, Machine.logicalPosition, PerAxis.get_zipWith, PerAxis.get_zipWith,
    ho, hp]

/-! ### One change -/

section Step

variable (d : Dialect) (m : Machine) (i : Axis)

theorem registersOf_moveAxis (j : Axis) (v : Float) :
    (m.moveAxis j v).registersOf i
      = if i = j then { m.registersOf i with position := m.target i v } else m.registersOf i := by
  rw [registersOf, get_position_moveAxis]
  split
  · next h => subst h; rfl
  · rfl

theorem registersOf_rebaseAxis (j : Axis) (v : Float) :
    (m.rebaseAxis j v).registersOf i
      = if i = j then { m.registersOf i with origin := m.position.get i - v }
        else m.registersOf i := by
  rw [registersOf, get_origin_rebaseAxis]
  split
  · next h => subst h; rfl
  · rfl

theorem registersOf_setAbsolute (j : Axis) (b : Bool) :
    (m.setAbsolute j b).registersOf i
      = if i = j then { m.registersOf i with absolute := b } else m.registersOf i := by
  rw [registersOf, get_absolute_setAbsolute]
  split
  · next h => subst h; rfl
  · rfl

/-- A change does to the registers of an axis what it says, if it concerns the axis, and else
nothing. -/
theorem registersOf_apply (s : Step) :
    (s.apply d m).registersOf i
      = if s.concerns i then (m.registersOf i).apply s else m.registersOf i := by
  cases s with
  | moveAxis j v =>
    rw [Step.concerns_eq_of_axis? rfl]
    simp only [decide_eq_true_eq]
    exact registersOf_moveAxis m i j v
  | rebaseAxis j v =>
    rw [Step.concerns_eq_of_axis? rfl]
    simp only [decide_eq_true_eq]
    exact registersOf_rebaseAxis m i j v
  | setAbsolute j b =>
    rw [Step.concerns_eq_of_axis? rfl]
    simp only [decide_eq_true_eq]
    exact registersOf_setAbsolute m i j b
  -- What is for the whole machine concerns every axis, and fills a bank or leaves it.
  | setUnitScale | setFeedrate => rfl
  | setAllAbsolute b =>
    show AxisRegisters.mk ((PerAxis.fill b).get i) _ _ = AxisRegisters.mk b _ _
    rw [PerAxis.get_fill]
    rfl
  | home =>
    show AxisRegisters.mk _ ((PerAxis.fill 0.0).get i) ((PerAxis.fill 0.0).get i)
      = AxisRegisters.mk _ 0.0 0.0
    rw [PerAxis.get_fill]
    rfl
  | reset =>
    show AxisRegisters.mk ((PerAxis.fill true).get i) ((PerAxis.fill 0.0).get i)
      ((PerAxis.fill 0.0).get i) = AxisRegisters.mk true 0.0 0.0
    rw [PerAxis.get_fill, PerAxis.get_fill]

/-- What a move of the axis answers can be told from the registers of the axis. -/
theorem result?_eq_of_axis? {s : Step} (hs : s.axis? = some i) :
    s.result? m = (m.registersOf i).result? s := by
  cases s with
  | moveAxis j v =>
    cases hs
    rfl
  | _ => rfl

end Step

/-! ### A course of changes -/

section Course

variable (d : Dialect) (i : Axis)

/-- The registers of an axis after a course of changes, from what concerns the axis. -/
theorem registersOf_applyAll (m : Machine) (steps : List Step) :
    (applyAll d m steps).registersOf i
      = (steps.filter (·.concerns i)).foldl AxisRegisters.apply (m.registersOf i) := by
  induction steps generalizing m with
  | nil => rfl
  | cons s rest ih =>
    show (applyAll d (s.apply d m) rest).registersOf i = _
    rw [ih, registersOf_apply]
    by_cases hs : s.concerns i = true
    · rw [if_pos hs, List.filter_cons_of_pos hs, List.foldl_cons]
    · rw [if_neg hs, List.filter_cons_of_neg hs]

/-- The answers to the moves of an axis, from what concerns the axis. -/
theorem answersOf_eq (m : Machine) (steps : List Step) :
    answersOf d i m steps
      = (m.registersOf i).answers i (steps.filter (·.concerns i)) := by
  induction steps generalizing m with
  | nil => rfl
  | cons s rest ih =>
    rw [answersOf, ih, registersOf_apply]
    by_cases hs : s.concerns i = true
    · rw [if_pos hs, List.filter_cons_of_pos hs, AxisRegisters.answers]
      split
      · next h => rw [result?_eq_of_axis? m i h]
      · rfl
    · have other : s.axis? ≠ some i := fun h => hs (Step.concerns_of_axis? h)
      rw [if_neg hs, List.filter_cons_of_neg hs, if_neg other, List.nil_append]

/-- Two courses with the same changes that concern an axis, in the same order, do the same to it. -/
theorem sameOn_of_filter_eq (m : Machine) {steps other : List Step}
    (h : other.filter (·.concerns i) = steps.filter (·.concerns i)) :
    SameOn i (applyAll d m steps) (applyAll d m other) ∧
      answersOf d i m steps = answersOf d i m other := by
  constructor
  · apply SameOn.of_registersOf
    rw [registersOf_applyAll, registersOf_applyAll, h]
  · rw [answersOf_eq, answersOf_eq, h]

/-- The axes do not interfere.  An axis ends the same, and its moves answer the same, when the
changes addressed to other axes are left out of the course, and in every course that has the
changes to the axis and to the whole machine in the same order, whatever it has between them. -/
theorem follows_own_steps (m : Machine) (steps : List Step) :
    (SameOn i (applyAll d m steps) (applyAll d m (steps.filter (·.concerns i))) ∧
        answersOf d i m steps = answersOf d i m (steps.filter (·.concerns i))) ∧
      ∀ other : List Step, other.filter (·.concerns i) = steps.filter (·.concerns i) →
        SameOn i (applyAll d m steps) (applyAll d m other) ∧
          answersOf d i m steps = answersOf d i m other := by
  constructor
  · apply sameOn_of_filter_eq
    rw [List.filter_filter]
    simp only [Bool.and_self]
  · intro other h
    exact sameOn_of_filter_eq d i m h

end Course

/-- Two orders of one course, for the first axis: what the second axis is told moves across the
change of mode, across the homing and across the moves of the first. -/
theorem follows_own_steps_reordered :
    let steps : List Step :=
      [.moveAxis .x 2.0, .moveAxis .y 1.0, .setAllAbsolute false, .rebaseAxis .y 3.0,
        .moveAxis .x 2.5, .home, .moveAxis .y 4.0, .moveAxis .x 0.5]
    let other : List Step :=
      [.moveAxis .x 2.0, .setAllAbsolute false, .moveAxis .y 1.0, .moveAxis .x 2.5,
        .moveAxis .y 4.0, .home, .moveAxis .x 0.5, .rebaseAxis .y 3.0]
    other.filter (·.concerns .x) = steps.filter (·.concerns .x) ∧
      SameOn .x (applyAll {} (powerOn {}) steps) (applyAll {} (powerOn {}) other) ∧
      answersOf {} .x (powerOn {}) other = [2.0, 4.5, 0.5] := by
  intro steps other
  have own : other.filter (·.concerns .x) = steps.filter (·.concerns .x) := by decide +kernel
  obtain ⟨same, answers⟩ := (follows_own_steps {} .x (powerOn {}) steps).2 other own
  refine ⟨own, same, ?_⟩
  rw [← answers]
  decide +kernel

end Machine

end Toolpath
