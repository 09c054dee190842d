/-
Toolpath/Proofs/Idempotence.lean

A move to a position, made twice.  Where all axes that are named read positions absolutely, the
second move leads to the registers of the first, to the last bit (`readLine_move_twice`): an axis
ends at its last word, wherever it came from, and the feed rates that are given again end at the
one that is in force.

The feed rates that are set again on the way are those that lie between two equal ones.  So a move
with one feed rate sets none the second time, provided that the feed rate is a number; and every
feed rate is one that is given in a unit that the machine can have.
-/
import Toolpath.Proofs.Double.Identity
import Toolpath.Proofs.Moving

namespace Toolpath

/-! ### Values in the unit in force -/

/-- The unit of a machine that can be reached is the millimetre or the inch, and what is a number
stays one in it. -/
theorem Reachable.beq_self_mul_unitScale {σ : Type} {k : Device σ} {s : σ} {x : Moment σ}
    (hx : Reachable {} k s x) {v : Float} (hv : (v == v) = true) :
    (v * x.interpreter.machine.unitScale == v * x.interpreter.machine.unitScale) = true := by
  have inch : (25.4 : Float).toModel.unpack
      = .finite .positive 7149464408450662 (-48) (by decide) := rfl
  rw [(Recounts.of_reachable hx).unitScale]
  split
  · exact Double.beq_self_mul hv inch (by decide)
  · exact Double.beq_self_mul hv Double.unpack_one (by decide)

namespace Command

/-! ### The words of a move, taken twice -/

/-- All axes that the words name read positions absolutely. -/
def NamesAbsolute (m : Machine) (ws : List Word) : Prop :=
  ∀ w ∈ ws, ∀ i, Axis.ofLetter? w.letter = some i → m.absolute.get i = true

/-- An axis that reads positions absolutely goes where it went before, and one that is not named
stays. -/
theorem follow_takeMoveWords {m : Machine} {ws : List Word} (h : NamesAbsolute m ws) (i : Axis) :
    (takeMoveWords m ws).1.follow i (valuesOf (isWordFor i) ws)
      = m.follow i (valuesOf (isWordFor i) ws) := by
  obtain ⟨unit, absolute, origin⟩ := takeMoveWords_keeps m ws
  have position := get_position_takeMoveWords m ws i
  rcases named : (ws.filter (isWordFor i)) with - | ⟨w, more⟩
  · have none : valuesOf (isWordFor i) ws = [] := by rw [valuesOf, named, List.map_nil]
    rw [none] at position ⊢
    exact position
  · have mem : w ∈ ws.filter (isWordFor i) := named ▸ List.mem_cons_self
    obtain ⟨hw, axis⟩ := List.mem_filter.1 mem
    have abs : m.absolute.get i = true := h w hw i (of_decide_eq_true axis)
    have some : (valuesOf (isWordFor i) ws).getLast? ≠ none := by
      simp [valuesOf, named]
    rw [Machine.follow_of_absolute _ i _ (absolute ▸ abs), Machine.follow_of_absolute m i _ abs,
      unit, origin]
    obtain ⟨v, last⟩ := Option.ne_none_iff_exists'.1 some
    rw [last]
    rfl

/-- The words of a move, taken once more, leave all registers. -/
theorem takeMoveWords_takeMoveWords {m : Machine} {ws : List Word} (h : NamesAbsolute m ws) :
    (takeMoveWords (takeMoveWords m ws).1 ws).1 = (takeMoveWords m ws).1 := by
  obtain ⟨unit, absolute, origin⟩ := takeMoveWords_keeps m ws
  obtain ⟨unit', absolute', origin'⟩ := takeMoveWords_keeps (takeMoveWords m ws).1 ws
  obtain ⟨-, rate⟩ := takeMoveWords_feed m ws
  obtain ⟨-, rate'⟩ := takeMoveWords_feed (takeMoveWords m ws).1 ws
  apply Machine.ext
  · exact unit'
  · exact absolute'
  · exact origin'
  · refine PerAxis.ext_get fun i => ?_
    rw [get_position_takeMoveWords, follow_takeMoveWords h, get_position_takeMoveWords]
  · rw [rate', unit, rate, rateAfter_rateAfter]

end Command

/-! ### A line with a move, read twice -/

namespace Interpreter

/-- A line with one move and its words. -/
theorem readLine_of_sends {line : Text} {g : Word} {ws : List Word}
    (hline : Word.readAll {} line = (g :: ws, none)) {c : Command} {send : PerAxis Float → Action}
    (hg : Command.ofWord? g = some c) (hc : c.Sends send)
    (hws : ∀ w ∈ ws, Command.isMoveWord w = true) {σ : Type} (k : Device σ) (i : Interpreter σ) :
    i.readLine {} k line
      = { i with lineCount := i.lineCount + 1 }.proceed k (Command.takeMoveWords i.machine ws).1
          ((Command.takeMoveWords i.machine ws).2 ++ if ws.any Command.isAxisWord
            then [send (Command.takeMoveWords i.machine ws).1.position] else []) := by
  rcases hn : Word.next? {} line with e | - | w
  · rw [Word.readAll_of_error hn] at hline
    cases hline
  · rw [Word.readAll_of_none hn] at hline
    cases hline
  rw [Word.readAll_of_word hn] at hline
  obtain ⟨words, none⟩ := Prod.mk.inj hline
  obtain ⟨rfl, others⟩ := List.cons.inj words
  obtain ⟨rest, span, done⟩ := Word.exists_span_of_readAll (Prod.ext others none) hws
  have run : c.run {} i.machine w.rest
      = ⟨(Command.takeMoveWords i.machine ws).1,
          (Command.takeMoveWords i.machine ws).2 ++ if ws.any Command.isAxisWord
            then [send (Command.takeMoveWords i.machine ws).1.position] else [], rest⟩ := by
    rw [hc.run_eq, Command.runMove, span]
  have step := step_of_command (d := {}) hg k { i with lineCount := i.lineCount + 1 }
  rw [readLine, read_of_rest hn (congrArg Prod.snd step), step]
  show Interpreter.read {} k (Interpreter.proceed k _ (c.run {} i.machine w.rest).machine
    (c.run {} i.machine w.rest).actions) (c.run {} i.machine w.rest).rest = _
  rw [run, read_of_none done]

end Interpreter

open Command in
/-- A line with one `G0` or `G1` and any words behind it, of which those for axes are for axes that
read positions absolutely, is read twice by a machine that can be reached.  The second reading
leaves all registers as the first one did, to the last bit.  It asks for the same move as the first,
or for none if no axis is named; and of the feed rates it sets again those that change the one in
force when they are given, which are none if the line gives one at most. -/
theorem readLine_move_twice {line : Text} {g : Word} {ws : List Word}
    (hline : Word.readAll {} line = (g :: ws, none)) {c : Command} {send : PerAxis Float → Action}
    (hg : ofWord? g = some c) (hc : c.Sends send) (hws : ∀ w ∈ ws, isMoveWord w = true)
    {τ : Type} {k' : Device τ} {s : τ} {x : Moment τ} (hx : Reachable {} k' s x)
    (habs : NamesAbsolute x.interpreter.machine ws)
    {σ : Type} (k : Device σ) (i : Interpreter σ) (hi : i.machine = x.interpreter.machine) :
    let j := i.readLine {} k line
    let l := j.readLine {} k line
    let rates := (valuesOf isFeedWord ws).map (· * i.machine.unitScale)
    let move := if ws.any isAxisWord then [send j.machine.position] else []
    l.machine = j.machine ∧
      j = { i with lineCount := i.lineCount + 1 }.proceed k j.machine
        ((rateChanges i.machine.feedrate rates).map Action.setFeedrate ++ move) ∧
      l = { j with lineCount := j.lineCount + 1 }.proceed k j.machine
        ((rateChanges j.machine.feedrate rates).map Action.setFeedrate ++ move) ∧
      ((ws.filter isFeedWord).length ≤ 1 → rateChanges j.machine.feedrate rates = []) := by
  intro j l rates move
  have first := Interpreter.readLine_of_sends hline hg hc hws k i
  have second := Interpreter.readLine_of_sends hline hg hc hws k j
  have done : j.machine = (takeMoveWords i.machine ws).1 := congrArg Interpreter.machine first
  rw [← hi] at habs
  have again : (takeMoveWords j.machine ws).1 = j.machine := by
    rw [done]
    exact takeMoveWords_takeMoveWords habs
  obtain ⟨told, rate⟩ := takeMoveWords_feed i.machine ws
  obtain ⟨told', -⟩ := takeMoveWords_feed j.machine ws
  have unit : j.machine.unitScale = i.machine.unitScale := by
    rw [done]
    exact (takeMoveWords_keeps i.machine ws).1
  rw [unit] at told'
  refine ⟨(congrArg Interpreter.machine second).trans again, ?_, ?_, fun single => ?_⟩
  · rw [told, ← done] at first
    exact first
  · rw [told', again] at second
    exact second
  · rw [done, rate]
    refine rateChanges_rateAfter_of_length_le_one ?_ ?_ _
    · rwa [List.length_map, valuesOf, List.length_map]
    · -- a value is a number, and in the unit in force, too
      refine List.forall_mem_map.2 fun v hv => ?_
      obtain ⟨w, hw, rfl⟩ := List.mem_map.1 hv
      have word : w ∈ (Word.readAll {} line).1 := by
        rw [hline]
        exact List.mem_cons_of_mem g (List.mem_filter.1 hw).1
      obtain ⟨negative, r, rounds⟩ := Word.exists_rounds_of_mem_readAll word
      rw [hi]
      exact hx.beq_self_mul_unitScale rounds.beq_self

/-- In inches, and with Z at five of them, `g1 x1 F300 X2 y-3` moves to the second X, and there
again when it is read once more; the feed rate is set once. -/
theorem move_in_inches_twice :
    let line := "g1 x1 F300 X2 y-3".toList
    let i := (Interpreter.start {} #[]).session {} recorder [.line "G20 G1 Z5".toList]
    let j := i.readLine {} recorder line
    let l := j.readLine {} recorder line
    let move := Action.coordinatedMove
      { PerAxis.fill 0.0 with x := 50.8, y := -3.0 * 25.4, z := 127.0 }
    l.machine = j.machine ∧ j.device = i.device ++ #[.setFeedrate 7620.0, move] ∧
      l.device = j.device.push move := by
  intro line i j l move
  let ws : List Word :=
    [⟨['X'], 1.0, "F300 X2 y-3".toList⟩, ⟨['F'], 300.0, "X2 y-3".toList⟩,
      ⟨['X'], 2.0, "y-3".toList⟩, ⟨['Y'], -3.0, []⟩]
  have words : Word.readAll {} line = (⟨['G'], 1.0, "x1 F300 X2 y-3".toList⟩ :: ws, none) := by
    decide +kernel
  have moves : ∀ w ∈ ws, Command.isMoveWord w = true := by decide
  obtain ⟨h, reached⟩ := reachable_session {} recorder #[] [.line "G20 G1 Z5".toList]
  have absolute : Command.NamesAbsolute i.machine ws := by
    intro w _ axis _
    cases axis <;> decide +kernel
  obtain ⟨same, first, second, single⟩ := readLine_move_twice words (by decide +kernel) .coordinated
    moves reached absolute recorder i rfl
  -- what the device was told, both times
  have rates : rateChanges i.machine.feedrate
      ((Command.valuesOf Command.isFeedWord ws).map (· * i.machine.unitScale)) = [7620.0] := by
    decide +kernel
  have target : Action.coordinatedMove j.machine.position = move := by decide +kernel
  rw [rates] at first
  rw [single (by decide)] at second
  refine ⟨same, (congrArg Interpreter.device first).trans ?_,
    (congrArg Interpreter.device second).trans ?_⟩
  · show recorder.acceptAll [.setFeedrate 7620.0, .coordinatedMove j.machine.position] i.device = _
    rw [target]
    rfl
  · show recorder.acceptAll [.coordinatedMove j.machine.position] j.device = _
    rw [target]
    rfl

end Toolpath
