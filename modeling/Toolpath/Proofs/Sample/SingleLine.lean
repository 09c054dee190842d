/-
Toolpath/Proofs/Sample/SingleLine.lean

The program of the single line is read as it is meant, by any machine.  It sends all axes home
before its first move, so that the two moves, which are written as distances, lead from zero; and
it ends with the modes absolute again, whatever they were (`readProgram_singleLine`).

It does not set the unit.  So its distances and its feed rates count in the unit that the machine
comes with.
-/
import Toolpath.Proofs.Sample.CalibrationSquare
import Toolpath.Sample.SingleLine

namespace Toolpath.Sample.SingleLine

open Text Numeral WrittenWord
open CalibrationSquare (writtenNumber zeroText value_zeroText unbroken_word)

variable (s : SingleLine)

/-- The numbers that the program prints. -/
def numbers : List Float :=
  [s.nozzleTemperature, s.layerHeight, s.length, s.filament, s.feedrate]

/-! ### Where the moves lead -/

/-- The nozzle above the bed, if a millimetre of the program is `k` machine units. -/
def lifted (k : Float) : PerAxis Float :=
  { PerAxis.fill 0.0 with z := 0.0 + printed 3 s.layerHeight * k }

/-- The end of the line, in the same unit. -/
def drawn (k : Float) : PerAxis Float :=
  { s.lifted k with
    x := 0.0 + printed 3 s.length * k
    e := 0.0 + printed 5 s.filament * k }

/-- The feed rate of the first move, as it is written. -/
def liftText : NumeralText :=
  ⟨"300".toList, (spells_digits 300).mem⟩

theorem value_liftText : value liftText.1 = 300.0 := by
  decide +kernel

/-- A machine that reads distances, with all origins at zero. -/
def drawing (k : Float) (p : PerAxis Float) (f : Float) : Machine where
  unitScale := k
  absolute := PerAxis.fill false
  origin := PerAxis.fill 0.0
  position := p
  feedrate := f

/-! ### The lines of the text -/

/-- No line has a break. -/
theorem unbroken_lines (h : ∀ x ∈ s.numbers, x.isFinite = true) : ∀ l ∈ s.lines, Unbroken l := by
  simp only [numbers, List.forall_mem_cons] at h
  obtain ⟨nozzle, height, length, filament, feed, -⟩ := h
  have heat : Unbroken ("M109 ".toList ++ word 'S' 0 s.nozzleTemperature) :=
    .append (by decide +kernel) (unbroken_word (by decide) 0 nozzle)
  have lift : Unbroken ("G1 ".toList ++ word 'Z' 3 s.layerHeight ++ " F300".toList) :=
    .append (.append (by decide +kernel) (unbroken_word (by decide) 3 height)) (by decide +kernel)
  have draw : Unbroken ("G1 ".toList ++ word 'X' 3 s.length ++ [' '] ++ word 'E' 5 s.filament
      ++ [' '] ++ word 'F' 0 s.feedrate) :=
    .append (.append (.append (.append (.append (by decide +kernel)
      (unbroken_word (by decide) 3 length)) (by decide)) (unbroken_word (by decide) 5 filament))
      (by decide)) (unbroken_word (by decide) 0 feed)
  simp only [lines, List.forall_mem_cons]
  refine ⟨?_, heat, ?_, ?_, ?_, lift, draw, ?_, ?_, ?_, ?_, ?_, List.forall_mem_nil _⟩ <;>
    decide +kernel

section

variable {σ : Type} {k : Device σ}

/-- The lift, from zero. -/
theorem plays_lift (hz : s.layerHeight.isFinite = true) (u f : Float) :
    Plays {} k (drawing u (PerAxis.fill 0.0) f)
      ("G1 ".toList ++ word 'Z' 3 s.layerHeight ++ " F300".toList)
      (drawing u (s.lifted u) (rateAfter f [300.0 * u]))
      (Stroke.log f ⟨false, s.lifted u, 300.0 * u⟩) := by
  refine Plays.of_move false [(.z, writtenNumber 3 hz)] liftText (List.cons_ne_nil _ _) ?_
    (congrArg (· * u) value_liftText)
  rw [texts_strokeWords_cons, texts_strokeWords_nil]
  simp only [word, List.append_assoc]
  rfl

/-- The line itself, from where the lift has led. -/
theorem plays_draw (hx : s.length.isFinite = true) (he : s.filament.isFinite = true)
    (hf : s.feedrate.isFinite = true) (u f : Float) :
    Plays {} k (drawing u (s.lifted u) f)
      ("G1 ".toList ++ word 'X' 3 s.length ++ [' '] ++ word 'E' 5 s.filament ++ [' ']
        ++ word 'F' 0 s.feedrate)
      (drawing u (s.drawn u) (rateAfter f [printed 0 s.feedrate * u]))
      (Stroke.log f ⟨false, s.drawn u, printed 0 s.feedrate * u⟩) := by
  refine Plays.of_move false [(.x, writtenNumber 3 hx), (.e, writtenNumber 5 he)]
    (writtenNumber 0 hf) (List.cons_ne_nil _ _) ?_ rfl
  rw [texts_strokeWords_cons, texts_strokeWords_cons, texts_strokeWords_nil]
  simp only [word, List.append_assoc]
  rfl

/-- The lines up to the first move bring any machine to zero, and it reads distances then. -/
theorem plays_opening (hn : s.nozzleTemperature.isFinite = true) (m : Machine) :
    PlaysAll {} k m (s.lines.take 5) (drawing m.unitScale (PerAxis.fill 0.0) m.feedrate)
      [.setTemperature (printed 0 s.nozzleTemperature), .waitTemperature,
        .goHome AxisSet.full] := by
  have empty : LineTail [] := .blanks (List.forall_mem_nil _)
  have title : Plays {} k m "; Single line test".toList m [] := .of_tail (lineTail_semicolon _)
  have heat : Plays {} k m ("M109 ".toList ++ word 'S' 0 s.nozzleTemperature) m
      [.setTemperature (printed 0 s.nozzleTemperature), .waitTemperature] := by
    have line := Plays.of_setTemperatureAndWait (k := k) (m := m) (writtenNumber 0 hn) empty
    rw [List.append_nil] at line
    exact line
  have home : Plays {} k m "G28".toList m.home [.goHome AxisSet.full] := .of_home [] empty
  have relative (m : Machine) : Plays {} k m "G91".toList (m.setAllAbsolute false) [] :=
    Plays.of_bare (c := .relative) empty rfl
  have extruder (m : Machine) : Plays {} k m "M83".toList (m.setAbsolute .e false) [] :=
    Plays.of_bare (c := .relativeExtruder) empty rfl
  exact .cons title (.cons heat (.cons home (.cons (relative _) (.cons (extruder _) .nil))))

/-- The lines after the last move make all axes absolute and turn all off. -/
theorem plays_closing (u : Float) (p : PerAxis Float) (f : Float) :
    PlaysAll {} k (drawing u p f) (s.lines.drop 7)
      { drawing u p f with absolute := PerAxis.fill true }
      [.setTemperature 0.0, .disableMotors] := by
  have empty : LineTail [] := .blanks (List.forall_mem_nil _)
  have absolute (m : Machine) : Plays {} k m "G90".toList (m.setAllAbsolute true) [] :=
    Plays.of_bare (c := .absolute) empty rfl
  have extruder (m : Machine) : Plays {} k m "M82".toList (m.setAbsolute .e true) [] :=
    Plays.of_bare (c := .absoluteExtruder) empty rfl
  have remark (m : Machine) : Plays {} k m "; End".toList m [] := .of_tail (lineTail_semicolon _)
  have nozzle (m : Machine) : Plays {} k m "M104 S0".toList m [.setTemperature 0.0] := by
    have line := Plays.of_setTemperature (k := k) (m := m) zeroText empty
    rw [List.append_nil, value_zeroText] at line
    exact line
  have motors (m : Machine) : Plays {} k m "M84".toList m [.disableMotors] :=
    Plays.of_bare (c := .disableMotors) empty rfl
  exact .cons (absolute _) (.cons (extruder _) (.cons (remark _) (.cons (nozzle _)
    (.cons (motors _) .nil))))

/-- What is recorded of the program, in the unit `u` and while the feed rate `f` is in force. -/
def programLog (u f : Float) : List Action :=
  [.setTemperature (printed 0 s.nozzleTemperature), .waitTemperature, .goHome AxisSet.full]
    ++ (Stroke.logs f [⟨false, s.lifted u, 300.0 * u⟩, ⟨false, s.drawn u, printed 0 s.feedrate * u⟩]
    ++ [.setTemperature 0.0, .disableMotors])

/-- The program from its first line to its last. -/
theorem playsAll_lines (h : ∀ x ∈ s.numbers, x.isFinite = true) (m : Machine) :
    let u := m.unitScale
    PlaysAll {} k m s.lines
      { drawing u (s.drawn u)
          (rateAfter (rateAfter m.feedrate [300.0 * u]) [printed 0 s.feedrate * u]) with
        absolute := PerAxis.fill true }
      (s.programLog u m.feedrate) := by
  intro u
  simp only [numbers, List.forall_mem_cons] at h
  obtain ⟨nozzle, height, length, filament, feed, -⟩ := h
  have lines := (s.plays_opening (k := k) nozzle m).append (.cons (s.plays_lift height u _)
    (.cons (s.plays_draw length filament feed u _) (s.plays_closing u _ _)))
  rw [programLog, Stroke.logs, Stroke.logs, Stroke.logs, List.append_nil, List.append_assoc]
  exact lines

end

/-- The single line, with finite numbers, is read by any interpreter that records, wherever its
machine is and whatever is in force.  It is heated, sent home and lifted, draws the line and is
turned off; a feed rate is set unless it is in force already.  Distances count from zero in the unit
that the machine comes with, which it keeps.  It is left at the end of the line, with absolute axes
and all origins at zero. -/
theorem readProgram_singleLine (h : ∀ x ∈ s.numbers, x.isFinite = true)
    (i : Interpreter Recording) :
    let j := i.readProgram {} recorder s.text
    let u := i.machine.unitScale
    let f := rateAfter i.machine.feedrate [300.0 * u]
    let v := printed 0 s.feedrate * u
    j.lineCount = 12 ∧ j.diagnostics = #[] ∧
      j.device.toList = i.device.toList ++
        ([.setTemperature (printed 0 s.nozzleTemperature), .waitTemperature, .goHome AxisSet.full]
          ++ (rateChanges i.machine.feedrate [300.0 * u]).map Action.setFeedrate
          ++ [.coordinatedMove (s.lifted u)]
          ++ (rateChanges f [v]).map Action.setFeedrate
          ++ [.coordinatedMove (s.drawn u), .setTemperature 0.0, .disableMotors]) ∧
      j.machine =
        { unitScale := u
          absolute := PerAxis.fill true
          origin := PerAxis.fill 0.0
          position := s.drawn u
          feedrate := rateAfter f [v] } := by
  intro j u f v
  have run : j = { i.proceed recorder
        { drawing u (s.drawn u) (rateAfter f [v]) with absolute := PerAxis.fill true }
        (s.programLog u i.machine.feedrate) with
      lineCount := 12
      diagnostics := #[] } := by
    show i.readLines {} recorder (Text.lines s.text) = _
    rw [text, lines_unlines (s.unbroken_lines h)]
    exact (s.playsAll_lines h i.machine).readLines rfl
  refine ⟨congrArg Interpreter.lineCount run, congrArg Interpreter.diagnostics run, ?_,
    congrArg Interpreter.machine run⟩
  have told : j.device.toList = i.device.toList ++ s.programLog u i.machine.feedrate :=
    (congrArg (fun j => j.device.toList) run).trans (toList_acceptAll_recorder _ _)
  rw [told, programLog, Stroke.logs, Stroke.logs, Stroke.logs, Stroke.log, Stroke.log]
  simp only [List.append_assoc, List.cons_append, List.nil_append, List.append_nil]
  rfl

/-- The usual line, read by a machine in inches that was left with distances, with its origins and
positions anywhere: the feed rate of the lift is in force there and is not set again. -/
theorem readProgram_singleLine_inches :
    let usual : SingleLine := {}
    let used : Machine :=
      ⟨25.4, PerAxis.fill false, PerAxis.fill 3.0, PerAxis.fill (-7.0), 7620.0⟩
    let i : Interpreter Recording := { Interpreter.start {} #[] with machine := used }
    let j := i.readProgram {} recorder usual.text
    let last : PerAxis Float := { PerAxis.fill 0.0 with x := 2540.0, z := 5.08, e := 84.480654 }
    (∀ x ∈ usual.numbers, x.isFinite = true) ∧ j.lineCount = 12 ∧ j.diagnostics = #[] ∧
      j.device.toList = [.setTemperature 210.0, .waitTemperature, .goHome AxisSet.full,
        .coordinatedMove { PerAxis.fill 0.0 with z := 5.08 }, .setFeedrate 45720.0,
        .coordinatedMove last, .setTemperature 0.0, .disableMotors] ∧
      j.machine = ⟨25.4, PerAxis.fill true, PerAxis.fill 0.0, last, 45720.0⟩ := by
  intro usual used i j last
  have finite : ∀ x ∈ usual.numbers, x.isFinite = true := by decide +kernel
  obtain ⟨count, none, told, machine⟩ := readProgram_singleLine usual finite i
  refine ⟨finite, count, none, told.trans ?_, machine.trans ?_⟩ <;> decide +kernel

end Toolpath.Sample.SingleLine
