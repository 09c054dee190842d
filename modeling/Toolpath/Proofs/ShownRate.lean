/-
Toolpath/Proofs/ShownRate.lean

The feed rate that the printer shows, and the one in force.  A feed rate is given by a word of a
move, in the unit of that moment (`Execution.givenRates`).  The printer is told of it just where it
changes the one in force; so both can be told from the feed rates that were given so far
(`ShowsRate`).  They differ in one thing: where nothing has changed yet, the one in force is that of
power-on, which is a setting of the dialect, and the printer shows zero.

So the printer shows the feed rate in force as soon as one was given that is not the one at
power-on, and not before (`reachable_printer_feedrate`); a feed rate that was given may be missed
(`printer_misses_startFeedrate`).
-/
import Toolpath.Proofs.ActionLog
import Toolpath.Proofs.Parameters
import Toolpath.Proofs.PrinterCounts

namespace Toolpath

/-! ### Feed rates that are given -/

namespace Execution

/-- The feed rates that a command was given, in order: those of the words that a move took. -/
def givenRates (d : Dialect) (x : Execution) : List Float :=
  if x.command ∈ [.rapidMove, .coordinatedMove] then
    (Command.valuesOf Command.isFeedWord (Word.span d Command.isMoveWord x.text).1).map
      (· * x.before.unitScale)
  else []

end Execution

/-- The feed rates that were given so far. -/
def ratesGiven (d : Dialect) (h : List Execution) : List Float :=
  h.flatMap (Execution.givenRates d)

theorem ratesGiven_concat (d : Dialect) (h : List Execution) (x : Execution) :
    ratesGiven d (h ++ [x]) = ratesGiven d h ++ x.givenRates d := by
  rw [ratesGiven, List.flatMap_append, List.flatMap_singleton]
  rfl

/-! ### What a command sets -/

namespace Command

variable (d : Dialect) (m : Machine) (t : Text)

theorem feedrate_runMove {send : PerAxis Float → Action} (hs : ∀ p, (send p).feedrate? = none) :
    let vs := (valuesOf isFeedWord (Word.span d isMoveWord t).1).map (· * m.unitScale)
    Action.feedrates (runMove d send m t).actions = rateChanges m.feedrate vs ∧
      (runMove d send m t).machine.feedrate = rateAfter m.feedrate vs := by
  obtain ⟨told, last⟩ := takeMoveWords_feed m (Word.span d isMoveWord t).1
  refine ⟨?_, last⟩
  have rates : ∀ vs : List Float, Action.feedrates (vs.map .setFeedrate) = vs := by
    intro vs
    rw [Action.feedrates, List.filterMap_map]
    exact List.filterMap_some
  rw [runMove, Action.feedrates, List.filterMap_append, told]
  -- the move itself sets none
  split
  · rw [List.filterMap_cons_none (hs _), List.filterMap_nil, List.append_nil]
    exact rates _
  · rw [List.filterMap_nil, List.append_nil]
    exact rates _

theorem feedrates_runSetting {act : Float → Action} (ha : ∀ v, (act v).feedrate? = none) :
    Action.feedrates (runSetting d act m t).actions = [] := by
  refine List.filterMap_eq_nil_iff.2 fun a h => ?_
  obtain ⟨v, rfl⟩ := exists_of_mem_runSetting h
  exact ha v

/-- A command sets the feed rates that it is given and that change the one in force. -/
theorem feedrate_run (c : Command) :
    let vs := Execution.givenRates d ⟨c, m, t⟩
    Action.feedrates (c.run d m t).actions = rateChanges m.feedrate vs ∧
      (c.run d m t).machine.feedrate = rateAfter m.feedrate vs := by
  cases c with
  | rapidMove => exact feedrate_runMove d m t fun _ => rfl
  | coordinatedMove => exact feedrate_runMove d m t fun _ => rfl
  | rebase => exact ⟨rfl, (takeOriginWords_keeps m _).2.2.2⟩
  | setTemperature | setFanSpeed =>
    exact ⟨feedrates_runSetting d m t fun _ => rfl,
      congrArg Machine.feedrate (machine_runSetting d _ m t)⟩
  | setTemperatureAndWait =>
    refine ⟨?_, congrArg Machine.feedrate (machine_runSetting d _ m t)⟩
    have silent : Action.feedrates (runSetting d .setTemperature m t).actions = [] :=
      feedrates_runSetting d m t fun _ => rfl
    show Action.feedrates (_ ++ [Action.waitTemperature]) = _
    rw [Action.feedrates, List.filterMap_append]
    exact congrArg (· ++ []) silent
  | _ => exact ⟨rfl, rfl⟩

end Command

/-! ### The printer -/

namespace Printer

variable (d : Dialect)

theorem feedrate_accept (a : Action) (p : Printer) :
    (accept d a p).feedrate = a.feedrate?.getD p.feedrate := by
  cases a with
  | handOver w => exact accept_handOver_keeps feedrate (fun _ _ _ _ => rfl) d w p
  | _ => rfl

/-- The printer shows the last feed rate that it was told. -/
theorem feedrate_acceptAll (as : List Action) (p : Printer) :
    ((printer d).acceptAll as p).feedrate = (Action.feedrates as).getLast?.getD p.feedrate :=
  last_acceptAll feedrate (feedrate_accept d) as p

end Printer

/-! ### At every moment -/

/-- The feed rate in force and the one that is shown, by the feed rates that were given. -/
structure ShowsRate (d : Dialect) (m : Machine) (p : Printer) (h : List Execution) : Prop where
  inForce : m.feedrate = rateAfter d.startFeedrate (ratesGiven d h)
  shown : p.feedrate = (rateChanges d.startFeedrate (ratesGiven d h)).getLast?.getD 0.0

namespace ShowsRate

variable {d : Dialect} {m : Machine} {p : Printer} {h : List Execution}

theorem powerOn (d : Dialect) : ShowsRate d (.powerOn d) .powerOn [] :=
  ⟨rfl, rfl⟩

theorem run (hs : ShowsRate d m p h) (c : Command) (t : Text) :
    ShowsRate d (c.run d m t).machine ((printer d).acceptAll (c.run d m t).actions p)
      (h ++ [⟨c, m, t⟩]) := by
  obtain ⟨told, last⟩ := Command.feedrate_run d m t c
  -- the feed rates of this command meet the one that is in force after all those before
  have more := rateChanges_append d.startFeedrate (ratesGiven d h)
    (Execution.givenRates d ⟨c, m, t⟩)
  rw [← hs.inForce, ← told] at more
  have after : ∀ x, (rateChanges d.startFeedrate (ratesGiven d (h ++ [⟨c, m, t⟩]))).getLast?.getD x
      = (Action.feedrates (c.run d m t).actions).getLast?.getD
          ((rateChanges d.startFeedrate (ratesGiven d h)).getLast?.getD x) := by
    intro x
    rw [ratesGiven_concat, more, List.getLast?_append]
    cases (Action.feedrates (c.run d m t).actions).getLast? <;> rfl
  refine ⟨?_, ?_⟩
  · rw [last, rateAfter, rateAfter, after, ← told, hs.inForce]
    rfl
  · rw [Printer.feedrate_acceptAll, after, hs.shown]

theorem handOver (hs : ShowsRate d m p h) (w : Word) :
    ShowsRate d m ((printer d).accept (.handOver w) p) h :=
  ⟨hs.inForce, (Printer.feedrate_accept d (.handOver w) p).trans hs.shown⟩

theorem of_reachable {x : Moment Printer} (hx : Reachable d (printer d) Printer.powerOn x) :
    ShowsRate d x.interpreter.machine x.interpreter.device x.history :=
  hx.device_invariant (P := ShowsRate d) (powerOn d) (fun c t hs => hs.run c t)
    fun w hs => hs.handOver w

end ShowsRate

/-- At every moment between two words or two lines, whatever the dialect is and whatever the
interpreter was used for with the printer: if a feed rate was given that is not equal to the one at
power-on, the printer shows the feed rate in force, and that is the same double.  If none was, the
one in force is that of power-on, and the printer shows zero. -/
theorem reachable_printer_feedrate (d : Dialect) :
    (∀ calls : List Call, ∃ h, Reachable d (printer d) Printer.powerOn
        ⟨(Interpreter.start d Printer.powerOn).session d (printer d) calls, none,
          calls.flatMap Call.texts, h⟩) ∧
      ∀ x : Moment Printer, Reachable d (printer d) Printer.powerOn x →
        if ∃ v ∈ ratesGiven d x.history, Changes d.startFeedrate v then
          x.interpreter.device.feedrate = x.interpreter.machine.feedrate
        else
          x.interpreter.machine.feedrate = d.startFeedrate ∧
            x.interpreter.device.feedrate = 0.0 := by
  refine ⟨reachable_session d (printer d) Printer.powerOn, fun x hx => ?_⟩
  have shows := ShowsRate.of_reachable hx
  split
  · next changed =>
      -- something was set, and the last of it is both in force and shown
      have told : rateChanges d.startFeedrate (ratesGiven d x.history) ≠ [] := by
        intro none
        obtain ⟨v, hv, change⟩ := changed
        exact rateChanges_eq_nil_iff.1 none v hv change
      have last := List.getLast?_eq_some_getLast told
      rw [shows.shown, shows.inForce, rateAfter, last]
      rfl
  · next same =>
      have none : rateChanges d.startFeedrate (ratesGiven d x.history) = [] :=
        rateChanges_eq_nil_iff.2 fun v hv change => same ⟨v, hv, change⟩
      have inForce := shows.inForce
      have shown := shows.shown
      rw [rateAfter, none] at inForce
      rw [none] at shown
      exact ⟨inForce, shown⟩

/-- A feed rate that was given may be missed.  Where `100` is the feed rate at power-on, the line
`G1 F100` gives a feed rate that is in force already; so the printer is not told of it, and goes on
to show zero. -/
theorem printer_misses_startFeedrate :
    let d : Dialect := { startFeedrate := 100.0 }
    let i := (Interpreter.start d Printer.powerOn).session d (printer d) [.line "G1 F100".toList]
    (∃ h, Reachable d (printer d) Printer.powerOn ⟨i, none, ["G1 F100".toList], h⟩ ∧
        ratesGiven d h = [100.0]) ∧
      i.machine.feedrate = 100.0 ∧ i.device.feedrate = 0.0 ∧
        (i.device.feedrate == i.machine.feedrate) = false := by
  intro d
  let word : Word := ⟨['G'], Numeral.value ['1'], "F100".toList⟩
  let before : Interpreter Printer := { Interpreter.start d Printer.powerOn with lineCount := 1 }
  have first : Word.next? d "G1 F100".toList = .ok (some word) := rfl
  have move : Command.ofWord? word = some .coordinatedMove := by decide +kernel
  have rest : (before.step d (printer d) word).2 = some [] := by decide +kernel
  have read : before.read d (printer d) "G1 F100".toList = (before.step d (printer d) word).1 := by
    rw [Interpreter.read_of_rest first rest, Interpreter.read_of_none rfl]
  have given : ratesGiven d [⟨.coordinatedMove, before.machine, word.rest⟩] = [100.0] := by
    decide +kernel
  intro i
  refine ⟨⟨_, ?_, given⟩, by decide +kernel⟩
  have line : Reachable d (printer d) Printer.powerOn ⟨before, some _, [_], []⟩ :=
    Reachable.start.line "G1 F100".toList
  have next := line.command first move
  rw [rest, ← read] at next
  exact next.finished rfl

/-- After `G1 F100 X1 F200` from there, `200` is shown and in force. -/
theorem printer_feedrate_after_change :
    let d : Dialect := { startFeedrate := 100.0 }
    let i := (Interpreter.start d Printer.powerOn).session d (printer d)
      [.line "G1 F100 X1 F200".toList]
    i.device.feedrate = i.machine.feedrate ∧ i.machine.feedrate = 200.0 := by
  intro d i
  have values : i.machine.feedrate = 200.0 ∧ d.startFeedrate = 100.0 ∧ (200.0 : Float) ≠ 100.0 := by
    decide +kernel
  obtain ⟨rate, start, other⟩ := values
  obtain ⟨sessions, moments⟩ := reachable_printer_feedrate d
  obtain ⟨h, hr⟩ := sessions [.line "G1 F100 X1 F200".toList]
  have shown := moments _ hr
  split at shown
  · exact ⟨shown, rate⟩
  · exact absurd (rate.symm.trans (shown.1.trans start)) other

end Toolpath
