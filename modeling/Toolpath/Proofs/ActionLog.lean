/-
Toolpath/Proofs/ActionLog.lean

What a recording tells about the machine.  Registers change word by word, and actions are
asked for once a command has read all its words, or is cut short; yet between two calls the
position and the feed rate of the machine can be read off the actions alone: the position
from the last action that moves or homes, the feed rate from the last one that sets it.  No
feed rate is set that was in force already (`session_recorder_told`).

The invariant is `Told`.  A move keeps it only as a whole: in the middle of one the position
has changed and no action says so yet.  So the words of a move are followed for the feed rate
alone (`FeedrateTold.takeMoveWords`), and the position is told by the action that ends it.
-/
import Mathlib.Data.List.Chain
import Toolpath.Device.Recorder
import Toolpath.Proofs.Session

namespace Toolpath

/-! ### What actions tell -/

namespace Action

/-- The position in which an action leaves the axes, if it is about them. -/
def resting? : Action → Option (PerAxis Float)
  | .rapidMove target => some target
  | .coordinatedMove target => some target
  | .goHome _ => some (PerAxis.fill 0.0)
  | _ => none

/-- The feed rate that an action sets, if it sets one. -/
def feedrate? : Action → Option Float
  | .setFeedrate v => some v
  | _ => none

/-- The position that the last action about the axes leaves; all zeros if there is none. -/
def lastPosition (log : List Action) : PerAxis Float :=
  (log.filterMap resting?).getLast?.getD (PerAxis.fill 0.0)

/-- The feed rates that are set, in order. -/
def feedrates (log : List Action) : List Float :=
  log.filterMap feedrate?

end Action

/-! ### The feed rate -/

/-- The feed rate `v` is the last one set, and each one set differs from the one before it; the
first comes after the feed rate at power-on. -/
structure FeedrateTold (d : Dialect) (v : Float) (log : List Action) : Prop where
  latest : v = (Action.feedrates log).getLast?.getD d.startFeedrate
  changes : (d.startFeedrate :: Action.feedrates log).IsChain fun u v => (v != u) = true

namespace FeedrateTold

variable {d : Dialect} {u v : Float} {log : List Action}

theorem append_of_silent (h : FeedrateTold d v log) {as : List Action}
    (ha : Action.feedrates as = []) : FeedrateTold d v (log ++ as) := by
  have same : Action.feedrates (log ++ as) = Action.feedrates log := by
    rw [Action.feedrates, List.filterMap_append]
    exact (congrArg _ ha).trans (List.append_nil _)
  exact ⟨same ▸ h.latest, same ▸ h.changes⟩

/-- A feed rate that is not in force is set. -/
theorem append_set (h : FeedrateTold d v log) (hu : (u != v) = true) :
    FeedrateTold d u (log ++ [.setFeedrate u]) := by
  have more : Action.feedrates (log ++ [.setFeedrate u]) = Action.feedrates log ++ [u] := by
    rw [Action.feedrates, List.filterMap_append]
    rfl
  refine ⟨?_, ?_⟩
  · rw [more, List.getLast?_concat]
    rfl
  · rw [more, ← List.cons_append, List.isChain_append]
    refine ⟨h.changes, List.isChain_singleton u, ?_⟩
    intro x hx y hy
    rw [List.getLast?_cons, ← h.latest] at hx
    obtain rfl : v = x := Option.some.inj hx
    obtain rfl : u = y := Option.some.inj hy
    exact hu

/-- The words of a move set the feed rates that change. -/
theorem takeMoveWords {m : Machine} (h : FeedrateTold d m.feedrate log) (ws : List Word) :
    FeedrateTold d (Command.takeMoveWords m ws).1.feedrate
      (log ++ (Command.takeMoveWords m ws).2) := by
  induction ws generalizing m log with
  | nil =>
      rw [Command.takeMoveWords, List.append_nil]
      exact h
  | cons w ws ih =>
      rw [Command.takeMoveWords]
      split
      · split
        · next hv =>
            -- a feed rate that is not in force
            have hw := ih (m := { m with feedrate := w.value * m.unitScale }) (h.append_set hv)
            rwa [List.append_assoc] at hw
        · exact ih h
      · split
        · exact ih (m := m.moveAxis _ _) h
        · exact ih h

end FeedrateTold

/-! ### The position -/

/-- The words of a move change the position only where an axis is among them. -/
theorem position_takeMoveWords (m : Machine) {ws : List Word}
    (h : ws.any Command.isAxisWord = false) :
    (Command.takeMoveWords m ws).1.position = m.position := by
  induction ws generalizing m with
  | nil => rfl
  | cons w ws ih =>
      rw [List.any_cons, Bool.or_eq_false_iff] at h
      have noAxis : Axis.ofLetter? w.letter = none := by
        simpa [Command.isAxisWord] using h.1
      rw [Command.takeMoveWords]
      simp only [noAxis]
      split
      · split
        · exact ih { m with feedrate := w.value * m.unitScale } h.2
        · exact ih m h.2
      · exact ih m h.2

/-- The words of a move ask for nothing about the axes. -/
theorem filterMap_resting?_takeMoveWords (m : Machine) (ws : List Word) :
    (Command.takeMoveWords m ws).2.filterMap Action.resting? = [] := by
  refine List.filterMap_eq_nil_iff.2 fun a ha => ?_
  obtain ⟨v, rfl⟩ := Command.exists_of_mem_takeMoveWords ha
  rfl

theorem lastPosition_append_of_silent {log as : List Action}
    (h : as.filterMap Action.resting? = []) :
    Action.lastPosition (log ++ as) = Action.lastPosition log := by
  rw [Action.lastPosition, List.filterMap_append, h, List.append_nil]
  rfl

theorem lastPosition_concat (log : List Action) {a : Action} {p : PerAxis Float}
    (h : a.resting? = some p) : Action.lastPosition (log ++ [a]) = p := by
  rw [Action.lastPosition, List.filterMap_append, List.filterMap_cons_some h]
  simp

/-! ### Both -/

/-- The position and the feed rate of a machine are those that the actions tell. -/
structure Told (d : Dialect) (m : Machine) (log : List Action) : Prop where
  position : m.position = Action.lastPosition log
  feedrate : FeedrateTold d m.feedrate log

namespace Told

variable {d : Dialect} {m : Machine} {log : List Action}

theorem powerOn (d : Dialect) : Told d (Machine.powerOn d) [] :=
  ⟨rfl, rfl, List.isChain_singleton _⟩

/-- Actions about neither, while neither changes. -/
theorem append_of_silent (h : Told d m log) {m' : Machine} (as : List Action)
    (hp : m'.position = m.position) (hf : m'.feedrate = m.feedrate)
    (hr : as.filterMap Action.resting? = []) (hs : Action.feedrates as = []) :
    Told d m' (log ++ as) :=
  ⟨hp ▸ h.position.trans (lastPosition_append_of_silent hr).symm,
    hf ▸ h.feedrate.append_of_silent hs⟩

/-- A move as a whole. -/
theorem runMove (h : Told d m log) {send : PerAxis Float → Action}
    (hr : ∀ p, (send p).resting? = some p) (hf : ∀ p, (send p).feedrate? = none) (t : Text) :
    Told d (Command.runMove d send m t).machine
      (log ++ (Command.runMove d send m t).actions) := by
  rw [Command.runMove]
  generalize (Word.span d Command.isMoveWord t).1 = ws
  have rates := h.feedrate.takeMoveWords ws
  have silent := filterMap_resting?_takeMoveWords m ws
  rcases ha : ws.any Command.isAxisWord with - | -
  · -- no axis among the words: the machine stays, and nothing more is asked for
    simp only [Bool.false_eq_true, if_false, List.append_nil]
    refine ⟨?_, rates⟩
    rw [position_takeMoveWords m ha, lastPosition_append_of_silent silent]
    exact h.position
  · -- the action that ends the move tells the position
    simp only [if_true]
    rw [← List.append_assoc]
    exact ⟨(lastPosition_concat _ (hr _)).symm,
      rates.append_of_silent (List.filterMap_cons_none (hf _))⟩

/-- A setting is about neither. -/
theorem runSetting (h : Told d m log) (act : Float → Action)
    (hr : ∀ v, (act v).resting? = none) (hf : ∀ v, (act v).feedrate? = none) (t : Text) :
    Told d (Command.runSetting d act m t).machine
      (log ++ (Command.runSetting d act m t).actions) := by
  rw [Command.runSetting]
  split
  · next v rest _ =>
      exact h.append_of_silent _ rfl rfl (List.filterMap_cons_none (hr v))
        (List.filterMap_cons_none (hf v))
  · exact h.append_of_silent _ rfl rfl rfl rfl

/-- Every command keeps the position and the feed rate told. -/
theorem run (h : Told d m log) (c : Command) (t : Text) :
    Told d (c.run d m t).machine (log ++ (c.run d m t).actions) := by
  cases c with
  | rapidMove => exact h.runMove (fun _ => rfl) (fun _ => rfl) t
  | coordinatedMove => exact h.runMove (fun _ => rfl) (fun _ => rfl) t
  | home =>
    -- the registers are zero before the action, whichever axes it names
    exact ⟨(lastPosition_concat log rfl).symm, h.feedrate.append_of_silent rfl⟩
  | rebase =>
    -- origins change, and neither the position nor the feed rate does
    obtain ⟨-, -, position, feedrate⟩ :=
      Command.takeOriginWords_keeps m (Word.span d Command.isAxisWord t).1
    exact h.append_of_silent _ position feedrate rfl rfl
  | setTemperature => exact h.runSetting _ (fun _ => rfl) (fun _ => rfl) t
  | setFanSpeed => exact h.runSetting _ (fun _ => rfl) (fun _ => rfl) t
  | setTemperatureAndWait =>
    -- the setting, and then a wait that is about neither
    have set := h.runSetting .setTemperature (fun _ => rfl) (fun _ => rfl) t
    have wait := set.append_of_silent [.waitTemperature] rfl rfl rfl rfl
    rwa [List.append_assoc] at wait
  | _ => exact h.append_of_silent _ rfl rfl rfl rfl

/-- The invariant of a session that is recorded. -/
theorem kept (d : Dialect) : Kept d recorder fun m s => Told d m s.toList where
  command c t h := by
    rw [toList_acceptAll_recorder]
    exact h.run c t
  handOver w _ _ h := by
    have silent := h.append_of_silent [.handOver w] rfl rfl rfl rfl
    rwa [← Array.toList_push] at silent

/-- What is told by the log does not depend on the device. -/
theorem traced {σ : Type} (d : Dialect) (k : Device σ) :
    Traced d k fun m _ log => Told d m log where
  command c t h := h.run c t
  handOver w _ _ h := h.append_of_silent [.handOver w] rfl rfl rfl rfl

end Told

/-! ### Sessions -/

/-- After any calls on an interpreter that records, the position of the machine is that of the
last action about the axes, zero for one that homes and zero if there was none; the feed rate
is the last one that was set, or else that of power-on; and each feed rate that was set
differs, as a number, from the one before it. -/
theorem session_recorder_told (d : Dialect) (calls : List Call) :
    let i := (Interpreter.start d #[]).session d recorder calls
    i.machine.position
        = (i.device.toList.filterMap Action.resting?).getLast?.getD (PerAxis.fill 0.0) ∧
      i.machine.feedrate
        = (i.device.toList.filterMap Action.feedrate?).getLast?.getD d.startFeedrate ∧
      (d.startFeedrate :: i.device.toList.filterMap Action.feedrate?).IsChain
        fun u v => (v != u) = true := by
  -- the invariant holds at power-on, and every call keeps it
  have told := (Told.kept d).start_session (s := #[]) (Told.powerOn d) calls
  exact ⟨told.position, told.feedrate.latest, told.feedrate.changes⟩

end Toolpath
