/-
Toolpath/Proofs/Sample/Independence.lean

The calibration tower does not depend on what ran before it.  Its opening sets the unit, sends all
axes home, makes them absolute and puts the origin of the extruder where the extruder is, before the
first stroke makes use of any of these (`plays_heating`, `plays_zeroing`).

The one register that the opening leaves is the feed rate.  Every stroke gives its own; but a feed
rate that is in force is not set again.  The first one is that of the lift, and there it is seen
whether it was in force before the program (`logs_strokes`).
-/
import Toolpath.Proofs.Sample.Tower

namespace Toolpath.Sample.CalibrationSquare

variable (s : CalibrationSquare)

theorem unpack_lift :
    (300.0 : Float).toModel.unpack = .finite .positive (300 * 2 ^ 44) (-44) (by decide) := rfl

/-- If there is a layer, the first stroke is its lift. -/
theorem exists_strokes_eq (h : 1 ≤ s.layers) :
    ∃ t ss, s.strokes = t :: ss ∧ t.feedrate = 300.0 := by
  obtain ⟨n, hn⟩ : ∃ n, s.layers.toNat = n + 1 := ⟨s.layers.toNat - 1, by omega⟩
  rw [strokes, hn]
  exact ⟨_, _, rfl, rfl⟩

/-- What is recorded of the strokes, and the feed rate they leave, depend on the feed rate before
them in one point only: whether that of the lift has to be set. -/
theorem logs_strokes (h : 1 ≤ s.layers) :
    ∃ moves feed, ∀ f, Stroke.feedAfter f s.strokes = feed ∧
      Stroke.logs f s.strokes = (if f = 300.0 then [] else [.setFeedrate 300.0]) ++ moves := by
  obtain ⟨t, ss, hs, ht⟩ := s.exists_strokes_eq h
  refine ⟨t.action :: Stroke.logs 300.0 ss, Stroke.feedAfter 300.0 ss, fun f => ?_⟩
  have lift : rateAfter f [t.feedrate] = 300.0 := ht ▸ rateAfter_singleton_of_finite unpack_lift f
  rw [hs]
  refine ⟨?_, ?_⟩
  · rw [Stroke.feedAfter, List.foldl_cons, lift]
    rfl
  · rw [Stroke.logs, Stroke.log, lift, ht, rateChanges_singleton_of_finite unpack_lift,
      List.append_assoc, apply_ite (List.map Action.setFeedrate)]
    rfl

/-- A tower of at least one layer, with finite numbers, is read alike by any two interpreters that
record, wherever their machines are and whatever was in force.  Both end with the same machine, the
same count and no diagnostic.  Both record the same actions, but for the first feed rate, which is
that of the lift: it is recorded just where it was not in force before. -/
theorem readProgram_independent (h : ∀ x ∈ s.numbers, x.isFinite = true) (hl : 1 ≤ s.layers)
    (i j : Interpreter Recording) :
    let a := i.readProgram {} recorder s.text
    let b := j.readProgram {} recorder s.text
    a.machine = b.machine ∧ a.lineCount = b.lineCount ∧ a.diagnostics = #[] ∧
      b.diagnostics = #[] ∧
      ∃ before after, Action.feedrates before = [] ∧
        a.device.toList = i.device.toList ++ (before
          ++ (if i.machine.feedrate = 300.0 then [] else [.setFeedrate 300.0]) ++ after) ∧
        b.device.toList = j.device.toList ++ (before
          ++ (if j.machine.feedrate = 300.0 then [] else [.setFeedrate 300.0]) ++ after) := by
  obtain ⟨moves, feed, hs⟩ := s.logs_strokes hl
  let told : Word → Word → List Action := fun w v => [.handOver w, .handOver v]
  -- one run from any interpreter, with its feed rate as the parameter
  have run (i : Interpreter Recording) :
      let a := i.readProgram {} recorder s.text
      a.machine = (printing (Stroke.positionAfter (PerAxis.fill 0.0) s.strokes) feed).home ∧
        a.lineCount = 19 + 8 * s.layers.toNat ∧ a.diagnostics = #[] ∧
        a.device.toList = i.device.toList ++ ((s.heatingLog told ++ zeroingLog)
          ++ (if i.machine.feedrate = 300.0 then [] else [.setFeedrate 300.0])
          ++ (moves ++ closingLog told)) := by
    obtain ⟨last, logs⟩ := hs i.machine.feedrate
    intro a
    have read : a = _ := readProgram_eq_proceed takesBed_recorder h i
    rw [last, logs] at read
    rw [read]
    refine ⟨rfl, rfl, rfl, ?_⟩
    show (recorder.acceptAll _ i.device).toList = _
    rw [toList_acceptAll_recorder]
    simp only [List.append_assoc, told]
  obtain ⟨machine, count, silent, log⟩ := run i
  obtain ⟨machine', count', silent', log'⟩ := run j
  exact ⟨machine.trans machine'.symm, count.trans count'.symm, silent, silent', _, _, rfl, log,
    log'⟩

/-- A machine at power-on, and one that was left in inches, with relative axes, away from its
origins and with the feed rate of the lift: from there one feed rate less is recorded. -/
theorem readProgram_after_lift :
    let s : CalibrationSquare := { layers := 1 }
    let i := Interpreter.start {} #[]
    let used : Machine := ⟨25.4, PerAxis.fill false, PerAxis.fill 3.0, PerAxis.fill 7.0, 300.0⟩
    let j : Interpreter Recording := { i with machine := used }
    (∀ x ∈ s.numbers, x.isFinite = true) ∧ 1 ≤ s.layers ∧
      (i.readProgram {} recorder s.text).machine = (j.readProgram {} recorder s.text).machine ∧
      Action.feedrates (i.readProgram {} recorder s.text).device.toList
        = 300.0 :: Action.feedrates (j.readProgram {} recorder s.text).device.toList := by
  intro s i used j
  have finite : ∀ x ∈ s.numbers, x.isFinite = true := by decide +kernel
  have layer : 1 ≤ s.layers := by decide
  obtain ⟨machine, -, -, -, before, after, silent, log, log'⟩ :=
    readProgram_independent s finite layer i j
  refine ⟨finite, layer, machine, ?_⟩
  have fresh : i.machine.feedrate ≠ 300.0 := by decide +kernel
  rw [log, log', if_neg fresh, if_pos rfl]
  simp only [Action.feedrates, List.filterMap_append] at silent ⊢
  rw [silent]
  rfl

end Toolpath.Sample.CalibrationSquare
