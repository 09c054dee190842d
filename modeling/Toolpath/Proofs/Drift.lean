/-
Toolpath/Proofs/Drift.lean

Where the printer stands, and where the machine does.  A move sends both to the same position.  A
`G28` sends the machine to zero on every axis, and the printer on the axes that it names; so on an
axis that no `G28` has named since the last move the two have drifted apart, and the printer still
stands where that move left it (`session_printer_position`).

Both positions are functions of the log, and the drift is what these two functions differ in: what
counts is the last move and the axes sent home since (`position_printer`, `lastPosition_eq`).
-/
import Mathlib.Data.List.DropRight
import Toolpath.Device.Printer
import Toolpath.Proofs.ActionLog
import Toolpath.Proofs.PrinterCounts

namespace Toolpath

/-! ### Since the last move -/

namespace Action

/-- The axes that an action sends home, if it sends any. -/
def homed? : Action → Option AxisSet
  | .goHome axes => some axes
  | _ => none

/-- The sets of axes that were sent home since the last move, in order. -/
def homesSinceMove (log : List Action) : List AxisSet :=
  (log.rtakeWhile fun a => a.target?.isNone).filterMap homed?

/-- The position that the last move leads to; all zeros if there is none. -/
def lastTarget (log : List Action) : PerAxis Float :=
  (log.filterMap target?).getLast?.getD (PerAxis.fill 0.0)

/-- Something was sent home since the last move, and the axis `i` was not. -/
def Drifted (log : List Action) (i : Axis) : Prop :=
  homesSinceMove log ≠ [] ∧ ∀ axes ∈ homesSinceMove log, axes.get i = false

instance (log : List Action) (i : Axis) : Decidable (Drifted log i) :=
  inferInstanceAs (Decidable (_ ∧ _))

section Concat

variable (log : List Action) {a : Action}

theorem homesSinceMove_concat_move {p : PerAxis Float} (h : a.target? = some p) :
    homesSinceMove (log ++ [a]) = [] := by
  rw [homesSinceMove, List.rtakeWhile_concat_neg _ _ _ (by simp [h]), List.filterMap_nil]

theorem homesSinceMove_concat (h : a.target? = none) :
    homesSinceMove (log ++ [a]) = homesSinceMove log ++ a.homed?.toList := by
  have one : [a].filterMap homed? = a.homed?.toList := by
    cases hh : a.homed? <;> simp [hh]
  rw [homesSinceMove, List.rtakeWhile_concat_pos _ _ _ (by simp [h]), List.filterMap_append, one]
  rfl

theorem lastTarget_concat_move {p : PerAxis Float} (h : a.target? = some p) :
    lastTarget (log ++ [a]) = p := by
  rw [lastTarget, List.filterMap_append, List.filterMap_cons_some h]
  simp

theorem lastTarget_concat (h : a.target? = none) : lastTarget (log ++ [a]) = lastTarget log := by
  rw [lastTarget, List.filterMap_append, List.filterMap_cons_none h, List.filterMap_nil,
    List.append_nil]
  rfl

end Concat

/-- An action that neither moves nor sends home is about no axis. -/
theorem resting?_of_other {a : Action} (ht : a.target? = none) (hh : a.homed? = none) :
    a.resting? = none := by
  cases a with
  | rapidMove target | coordinatedMove target => cases ht
  | goHome axes => cases hh
  | _ => rfl

/-- The machine is where the last move led it, unless something was sent home since. -/
theorem lastPosition_eq (log : List Action) :
    lastPosition log
      = if homesSinceMove log = [] then lastTarget log else PerAxis.fill 0.0 := by
  induction log using List.reverseRecOn with
  | nil => rfl
  | append_singleton log a ih =>
    rcases ht : a.target? with - | p
    · rw [homesSinceMove_concat log ht, lastTarget_concat log ht]
      rcases hh : a.homed? with - | axes
      · have silent := List.filterMap_cons_none (l := []) (resting?_of_other ht hh)
        rw [lastPosition_append_of_silent silent, ih, Option.toList_none, List.append_nil]
      · have home : a.resting? = some (PerAxis.fill 0.0) := by
          cases a <;> cases hh
          rfl
        rw [lastPosition_concat log home, if_neg (by simp)]
    · have move : a.resting? = some p := by
        cases a <;> cases ht <;> rfl
      rw [lastPosition_concat log move, homesSinceMove_concat_move log ht,
        lastTarget_concat_move log ht, if_pos rfl]

end Action

open Toolpath.Action

/-! ### The printer -/

namespace Printer

variable (d : Dialect)

theorem position_accept_move {a : Action} {target : PerAxis Float} (h : a.target? = some target)
    (p : Printer) : (accept d a p).position = target := by
  cases a <;> cases h <;> rfl

/-- An action that neither moves nor sends home leaves the printer where it is. -/
theorem position_accept_other {a : Action} (ht : a.target? = none) (hh : a.homed? = none)
    (p : Printer) : (accept d a p).position = p.position := by
  cases a with
  | rapidMove target | coordinatedMove target => cases ht
  | goHome axes => cases hh
  | handOver w => exact accept_handOver_keeps position (fun _ _ _ _ => rfl) d w p
  | _ => rfl

theorem get_position_goHome (axes : AxisSet) (p : Printer) (i : Axis) :
    (goHome axes p).position.get i = if axes.get i then 0.0 else p.position.get i :=
  PerAxis.get_zipWith _ axes p.position i

/-- The printer is where the last move led it, but for the axes that were sent home since. -/
theorem position_printer (log : List Action) (i : Axis) :
    ((printer d).acceptAll log powerOn).position.get i
      = if (homesSinceMove log).any (·.get i) then 0.0 else (lastTarget log).get i := by
  induction log using List.reverseRecOn with
  | nil => rfl
  | append_singleton log a ih =>
    rw [Device.acceptAll_append]
    show (accept d a ((printer d).acceptAll log powerOn)).position.get i = _
    rcases ht : a.target? with - | target
    · rw [homesSinceMove_concat log ht, lastTarget_concat log ht, List.any_append]
      rcases hh : a.homed? with - | axes
      · rw [position_accept_other d ht hh, ih, Option.toList_none, List.any_nil, Bool.or_false]
      · obtain rfl : a = .goHome axes := by
          cases a <;> cases hh
          rfl
        -- zero where it was before or where it is sent home now
        show (goHome axes _).position.get i = _
        rw [get_position_goHome, ih, Option.toList_some, List.any_cons, List.any_nil,
          Bool.or_false]
        cases axes.get i
        · rw [Bool.or_false]
          rfl
        · rw [Bool.or_true]
          rfl
    · rw [position_accept_move d ht, homesSinceMove_concat_move log ht,
        lastTarget_concat_move log ht, List.any_nil]
      rfl

end Printer

/-! ### What a command asks for -/

namespace Command

variable (d : Dialect) (m : Machine) (t : Text)

/-- A move that is asked for is the last action of its command. -/
theorem position_runMove {send : PerAxis Float → Action}
    (hs : ∀ target, (send target).target? = some target) (p : Printer)
    (h : ∃ a ∈ (runMove d send m t).actions, a.target? ≠ none) :
    ((printer d).acceptAll (runMove d send m t).actions p).position
      = (runMove d send m t).machine.position := by
  rw [runMove] at h ⊢
  generalize (Word.span d isMoveWord t).1 = ws at h ⊢
  rcases ha : ws.any isAxisWord with - | -
  · -- no axis is named, and then no move is asked for
    obtain ⟨a, ha', hne⟩ := h
    rw [ha] at ha'
    simp only [Bool.false_eq_true, if_false, List.append_nil] at ha'
    obtain ⟨v, rfl⟩ := exists_of_mem_takeMoveWords ha'
    exact absurd rfl hne
  · simp only [if_true, Device.acceptAll_append]
    exact Printer.position_accept_move d (hs _) _

/-- After a command that asks for a move, the printer is where the machine is. -/
theorem position_of_move (c : Command) (p : Printer)
    (h : ∃ a ∈ (c.run d m t).actions, a.target? ≠ none) :
    ((printer d).acceptAll (c.run d m t).actions p).position = (c.run d m t).machine.position := by
  obtain ⟨a, ha, hne⟩ := h
  cases c with
  | rapidMove => exact position_runMove d m t (fun _ => rfl) p ⟨a, ha, hne⟩
  | coordinatedMove => exact position_runMove d m t (fun _ => rfl) p ⟨a, ha, hne⟩
  -- the other commands ask for no move
  | setTemperature | setFanSpeed =>
    obtain ⟨v, rfl⟩ := exists_of_mem_runSetting ha
    exact absurd rfl hne
  | setTemperatureAndWait =>
    rcases List.mem_append.1 ha with ha | ha
    · obtain ⟨v, rfl⟩ := exists_of_mem_runSetting ha
      exact absurd rfl hne
    · obtain rfl := List.mem_singleton.1 ha
      exact absurd rfl hne
  | home | disableMotors | fanOff | waitTemperature =>
    obtain rfl := List.mem_singleton.1 ha
    exact absurd rfl hne
  | useInches | useMillimetres | absolute | relative | rebase | absoluteExtruder
  | relativeExtruder => exact absurd ha List.not_mem_nil

/-- A `G28` sends home the axes that it names, and all of them if it names none. -/
theorem exists_goHome :
    ∃ axes, (home.run d m t).actions = [.goHome axes] ∧
      ∀ i, axes.get i = true ↔ i ∈ (Word.axisNames d t).1 ∨ (Word.axisNames d t).1 = [] := by
  refine ⟨_, rfl, fun i => ?_⟩
  by_cases hn : (Word.axisNames d t).1 = []
  · rw [if_pos hn, AxisSet.full, PerAxis.get_fill]
    exact iff_of_true rfl (.inr hn)
  · rw [if_neg hn, AxisSet.get_ofList, decide_eq_true_iff]
    exact (or_iff_left hn).symm

end Command

/-! ### Sessions -/

/-- After any calls on an interpreter that drives the printer, printer and machine stand at the same
position on each axis that has not drifted.  On an axis that has drifted the machine is at zero, and
the printer where the last move led it.

The axes that a `G28` sends home are those that it names, or all; and whatever was before, a command
that asks for a move brings printer and machine to the same position again. -/
theorem session_printer_position (d : Dialect) :
    (∀ (calls : List Call) (axis : Axis),
      let i := (Interpreter.start d Printer.powerOn).session d (printer d) calls
      if Drifted i.log axis then
        i.machine.position.get axis = 0.0 ∧
          i.device.position.get axis = (lastTarget i.log).get axis
      else
        i.device.position.get axis = i.machine.position.get axis) ∧
      (∀ (m : Machine) (t : Text), ∃ axes, (Command.home.run d m t).actions = [.goHome axes] ∧
        ∀ axis, axes.get axis = true ↔
          axis ∈ (Word.axisNames d t).1 ∨ (Word.axisNames d t).1 = []) ∧
      ∀ (i : Interpreter Printer) (w : Word) (c : Command), Command.ofWord? w = some c →
        (∃ a ∈ (c.run d i.machine w.rest).actions, a.target? ≠ none) →
        let j := (i.step d (printer d) w).1
        j.device.position = j.machine.position := by
  refine ⟨fun calls axis => ?_, Command.exists_goHome d, fun i w c hc h => ?_⟩
  · intro i
    -- both positions can be told from the log
    have told : i.machine.position = lastPosition i.log :=
      ((Told.traced d (printer d)).start_session (s := Printer.powerOn) (Told.powerOn d)
        calls).position
    have played : i.device = (printer d).acceptAll i.log Printer.powerOn :=
      (traced_acceptAll d (printer d) Printer.powerOn).start_session rfl calls
    rw [told, played, Printer.position_printer, lastPosition_eq]
    split
    · next drifted =>
        have none : (homesSinceMove i.log).any (·.get axis) = false :=
          List.any_eq_false.2 fun axes hx => Bool.eq_false_iff.1 (drifted.2 axes hx)
        rw [if_neg drifted.1, PerAxis.get_fill, none]
        exact ⟨rfl, rfl⟩
    · next drifted =>
        by_cases homes : homesSinceMove i.log = []
        · rw [homes, List.any_nil, if_pos rfl]
          rfl
        · -- something was sent home, and the axis with it
          have home : (homesSinceMove i.log).any (·.get axis) = true := by
            by_contra hno
            refine drifted ⟨homes, fun axes hx => ?_⟩
            exact Bool.eq_false_iff.2 (List.any_eq_false.1 (Bool.eq_false_iff.2 hno) axes hx)
          rw [home, if_neg homes, PerAxis.get_fill]
          rfl
  · rw [Interpreter.step_of_command hc]
    exact Command.position_of_move d i.machine w.rest c i.device h

/-- After a `G28` for one axis the printer still stands on another where it was; and with the next
move the two are together again. -/
theorem session_partial_home :
    let i := (Interpreter.start {} Printer.powerOn).session {} (printer {})
      [.line "G1 X5 Y3".toList, .line "G28 X".toList]
    (Drifted i.log .y ∧ i.machine.position.get .y = 0.0 ∧ i.device.position.get .y = 3.0) ∧
      let j := (i.step {} (printer {}) ⟨['G'], 1.0, "Z2".toList⟩).1
      j.device.position = j.machine.position := by
  intro i
  have drifted : Drifted i.log .y := by decide +kernel
  have apart := (session_printer_position {}).1
    [.line "G1 X5 Y3".toList, .line "G28 X".toList] .y
  rw [if_pos drifted] at apart
  refine ⟨⟨drifted, apart.1, apart.2.trans (by decide +kernel)⟩, ?_⟩
  exact (session_printer_position {}).2.2 i ⟨['G'], 1.0, "Z2".toList⟩ .coordinatedMove
    (by decide +kernel) (by decide +kernel)

end Toolpath
