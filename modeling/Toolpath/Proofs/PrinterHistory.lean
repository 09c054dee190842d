/-
Toolpath/Proofs/PrinterHistory.lean

The printer by what was asked of it.  Whatever was asked of a new printer, in any order and with
resets in between, each of its registers is told by the actions since the last reset
(`Printer.Recalls`, `recalls_calls`).  There are three kinds of registers.  One kind counts or lists
actions; one holds what the last action has written of those that write it; and the third, the
motors and the axes that count as homed, gathers what the actions add, and is emptied where the
motors are turned off.

Several actions write more than one register, so there is one equation for each register and
a single action, and the three kinds are brought from one action to many once each
(`count_acceptAll`, `last_acceptAll`, `any_acceptAll`).
-/
import Toolpath.Proofs.Drift
import Toolpath.Proofs.Replay
import Toolpath.Proofs.ShownRate

namespace Toolpath

/-! ### What actions write -/

namespace Action

/-- The code that an action hands over, as text. -/
def code? : Action → Option Text
  | .handOver w => some w.text
  | _ => none

/-- Where an action leaves an axis, if it is about the axis: a move where it leads to, and being
sent home at zero. -/
def placed? (i : Axis) : Action → Option Float
  | .rapidMove target => some (target.get i)
  | .coordinatedMove target => some (target.get i)
  | .goHome axes => if axes.get i then some 0.0 else none
  | _ => none

/-- The temperature of the hot end that an action sets, if it sets one. -/
def hotend? : Action → Option Float
  | .setTemperature v => some v
  | _ => none

/-- The speed of the fan that an action sets, if it sets one. -/
def fan? : Action → Option Float
  | .setFanSpeed v => some v
  | _ => none

/-- The temperature of the bed that an action sets: one of the two codes, where a setting follows
it. -/
def bed? (d : Dialect) : Action → Option Float
  | .handOver w =>
    if w.text ∈ Printer.bedCodes then (Word.setting? d w.rest).map Prod.fst else none
  | _ => none

/-- The actions since the motors were turned off, or all if they never were. -/
def sinceDisabled (log : List Action) : List Action :=
  log.rtakeWhile (· ≠ .disableMotors)

end Action

open Toolpath.Action

namespace Printer

/-! ### One action -/

section Accept

variable (d : Dialect) (a : Action) (p : Printer)

theorem position_accept (i : Axis) :
    (accept d a p).position.get i = (a.placed? i).getD (p.position.get i) := by
  cases a with
  | goHome axes =>
    show (goHome axes p).position.get i = _
    rw [get_position_goHome, placed?]
    cases axes.get i <;> rfl
  | handOver w => exact accept_handOver_keeps (·.position.get i) (fun _ _ _ _ => rfl) d w p
  | _ => rfl

theorem hotendTarget_accept : (accept d a p).hotendTarget = a.hotend?.getD p.hotendTarget := by
  cases a with
  | handOver w => exact accept_handOver_keeps hotendTarget (fun _ _ _ _ => rfl) d w p
  | _ => rfl

theorem fanSpeed_accept : (accept d a p).fanSpeed = a.fan?.getD p.fanSpeed := by
  cases a with
  | handOver w => exact accept_handOver_keeps fanSpeed (fun _ _ _ _ => rfl) d w p
  | _ => rfl

theorem bedTarget_accept : (accept d a p).bedTarget = (a.bed? d).getD p.bedTarget := by
  cases a with
  | handOver w =>
    rw [accept, takeWord, bed?]
    rcases hb : bedCommand? w with - | b
    · rw [if_neg (bedCommand?_eq_none_iff.1 hb)]
      rfl
    · have code : w.text ∈ bedCodes :=
        not_not.1 fun h => Option.some_ne_none b (hb.symm.trans (bedCommand?_eq_none_iff.2 h))
      rw [if_pos code]
      cases b <;> simp only [setBed_eq]
  | _ => rfl

end Accept

/-! ### Many actions -/

/-- What some actions add since the motors were turned off. -/
theorem any_acceptAll {d : Dialect} (register : Printer → Bool) {adds : Action → Bool}
    (new : register powerOn = false)
    (off : ∀ p, register (accept d .disableMotors p) = false)
    (h : ∀ a p, a ≠ .disableMotors → register (accept d a p) = (register p || adds a))
    (log : List Action) :
    register ((printer d).acceptAll log powerOn) = (sinceDisabled log).any adds := by
  induction log using List.reverseRecOn with
  | nil => exact new
  | append_singleton log a ih =>
    rw [Device.acceptAll_append]
    show register (accept d a ((printer d).acceptAll log powerOn)) = _
    by_cases ha : a = .disableMotors
    · subst ha
      rw [off, sinceDisabled, List.rtakeWhile_concat_neg _ _ _ (by simp)]
      rfl
    · rw [h a _ ha, ih, sinceDisabled, sinceDisabled, List.rtakeWhile_concat_pos _ _ _ (by simpa),
        List.any_append, List.any_cons, List.any_nil, Bool.or_false]

theorem motorsEnabled_acceptAll (d : Dialect) (log : List Action) :
    ((printer d).acceptAll log powerOn).motorsEnabled
      = (sinceDisabled log).any fun a => a.target?.isSome || a.homed?.isSome := by
  refine any_acceptAll motorsEnabled rfl (fun p => rfl) (fun a p ha => ?_) log
  cases a with
  | disableMotors => exact absurd rfl ha
  | rapidMove target | coordinatedMove target => exact (Bool.or_true _).symm
  | goHome axes => exact (Bool.or_true _).symm
  | handOver w =>
    exact (accept_handOver_keeps motorsEnabled (fun _ _ _ _ => rfl) d w p).trans
      (Bool.or_false _).symm
  | _ => exact (Bool.or_false _).symm

theorem homed_acceptAll (d : Dialect) (log : List Action) (i : Axis) :
    ((printer d).acceptAll log powerOn).homed.get i
      = (sinceDisabled log).any fun a => a.homed?.any (·.get i) := by
  refine any_acceptAll (fun p => p.homed.get i) (PerAxis.get_fill false i)
    (fun p => PerAxis.get_fill false i) (fun a p ha => ?_) log
  cases a with
  | disableMotors => exact absurd rfl ha
  | goHome axes => exact PerAxis.get_zipWith _ p.homed axes i
  | handOver w =>
    exact (accept_handOver_keeps (·.homed.get i) (fun _ _ _ _ => rfl) d w p).trans
      (Bool.or_false _).symm
  | _ => exact (Bool.or_false _).symm

theorem waits_eq (a : Action) :
    waits a = decide (a = .waitTemperature ∨ a.code? = some "M190".toList) := by
  cases a with
  | handOver w => simp [waits, code?, bedCommand?_eq_setAndWait_iff]
  | waitTemperature => rfl
  | _ => simp [waits, code?]

theorem ignored?_eq (a : Action) : ignored? a = a.code?.filter (· ∉ bedCodes) := by
  cases a with
  | handOver w => simp [ignored?, code?, bedCommand?_eq_none_iff, Option.filter]
  | _ => rfl

/-- The registers of the printer are those that the actions of the log lead to. -/
structure Recalls (d : Dialect) (p : Printer) (log : List Action) : Prop where
  moveCount : p.moveCount = log.countP fun a => a.target?.isSome
  rapidCount : p.rapidCount = log.countP isRapidMove
  waitCount : p.waitCount
    = log.countP fun a => a = .waitTemperature ∨ a.code? = some "M190".toList
  ignoredWords : p.ignoredWords.toList = (log.filterMap code?).filter (· ∉ bedCodes)
  motorsEnabled : p.motorsEnabled = true ↔
    ∃ a ∈ sinceDisabled log, a.target? ≠ none ∨ a.homed? ≠ none
  homed : ∀ i, p.homed.get i = true ↔ ∃ axes, .goHome axes ∈ sinceDisabled log ∧ axes.get i = true
  position : ∀ i, p.position.get i = (log.filterMap (placed? i)).getLast?.getD 0.0
  feedrate : p.feedrate = (log.filterMap feedrate?).getLast?.getD 0.0
  hotendTarget : p.hotendTarget = (log.filterMap hotend?).getLast?.getD 0.0
  fanSpeed : p.fanSpeed = (log.filterMap fan?).getLast?.getD 0.0
  bedTarget : p.bedTarget = (log.filterMap (bed? d)).getLast?.getD 0.0

theorem recalls_acceptAll (d : Dialect) (log : List Action) :
    Recalls d ((printer d).acceptAll log powerOn) log where
  moveCount := (moveCount_acceptAll d log powerOn).trans (Nat.zero_add _)
  rapidCount := (rapidCount_acceptAll d log powerOn).trans (Nat.zero_add _)
  waitCount := by
    rw [waitCount_acceptAll, show powerOn.waitCount = 0 from rfl, Nat.zero_add]
    exact congrArg (log.countP ·) (funext waits_eq)
  ignoredWords := by
    rw [ignoredWords_powerOn, List.filter_filterMap]
    exact congrArg (log.filterMap ·) (funext ignored?_eq)
  motorsEnabled := by
    rw [motorsEnabled_acceptAll, List.any_eq_true]
    simp [Option.isSome_iff_ne_none]
  homed i := by
    rw [homed_acceptAll, List.any_eq_true]
    constructor
    · rintro ⟨a, ha, hi⟩
      cases a with
      | goHome axes => exact ⟨axes, ha, hi⟩
      | _ => cases hi
    · rintro ⟨axes, ha, hi⟩
      exact ⟨_, ha, hi⟩
  position i :=
    (last_acceptAll (fun p => p.position.get i) (fun a p => position_accept d a p i) log
      powerOn).trans (by rw [powerOn, PerAxis.get_fill])
  feedrate := feedrate_acceptAll d log powerOn
  hotendTarget := last_acceptAll hotendTarget (hotendTarget_accept d) log powerOn
  fanSpeed := last_acceptAll fanSpeed (fanSpeed_accept d) log powerOn
  bedTarget := last_acceptAll bedTarget (bedTarget_accept d) log powerOn

/-! ### With resets in between -/

/-- What can be asked of a printer. -/
inductive Call
  | action (a : Action)
  | reset

namespace Call

/-- The action that is asked for, if one is. -/
def action? : Call → Option Action
  | .action a => some a
  | .reset => none

/-- The actions since the last reset, or all if there was none. -/
def sinceReset (calls : List Call) : List Action :=
  (calls.rtakeWhile fun c => c.action?.isSome).filterMap action?

theorem sinceReset_concat_reset (calls : List Call) : sinceReset (calls ++ [.reset]) = [] := by
  rw [sinceReset, List.rtakeWhile_concat_neg _ _ _ (by decide), List.filterMap_nil]

theorem sinceReset_concat_action (calls : List Call) (a : Action) :
    sinceReset (calls ++ [.action a]) = sinceReset calls ++ [a] := by
  rw [sinceReset, List.rtakeWhile_concat_pos _ _ _ rfl, List.filterMap_append]
  rfl

end Call

/-- The printer after a call. -/
def call (d : Dialect) (p : Printer) : Call → Printer
  | .action a => accept d a p
  | .reset => p.reset

/-- The printer after several calls. -/
def callAll (d : Dialect) (p : Printer) (calls : List Call) : Printer :=
  calls.foldl (call d) p

/-- A reset leaves nothing of what was before it. -/
theorem callAll_powerOn (d : Dialect) (calls : List Call) :
    callAll d powerOn calls = (printer d).acceptAll (Call.sinceReset calls) powerOn := by
  induction calls using List.reverseRecOn with
  | nil => rfl
  | append_singleton calls c ih =>
    rw [callAll, List.foldl_append, List.foldl_cons, List.foldl_nil, ← callAll, ih]
    cases c with
    | reset =>
      rw [Call.sinceReset_concat_reset]
      exact reset_eq ((printer d).acceptAll (Call.sinceReset calls) powerOn)
    | action a =>
      rw [Call.sinceReset_concat_action, Device.acceptAll_append]
      rfl

/-- Whatever was asked of a new printer, in any order, its registers are those that the actions
since the last reset lead to.  It counts the moves, the rapid ones among them, and the waits, with
those of the codes that spell `M190`, and lists the codes that are not the bed's; the motors are on
if something moved or was sent home since they were turned off, and homed is each axis that was sent
home since then; and the position of an axis, the feed rate, the temperatures and the fan are what
the last action has written that is about them, or zero. -/
theorem recalls_calls (d : Dialect) (calls : List Call) :
    Recalls d (callAll d powerOn calls) (Call.sinceReset calls) := by
  rw [callAll_powerOn]
  exact recalls_acceptAll d _

/-- Sending no axis home turns the motors on, and nothing else. -/
example : callAll {} powerOn [.action (.goHome .full), .action .waitTemperature, .reset,
    .action .disableMotors, .action (.goHome .empty)] = { powerOn with motorsEnabled := true } := by
  decide +kernel

end Printer

end Toolpath
