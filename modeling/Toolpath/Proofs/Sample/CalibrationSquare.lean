/-
Toolpath/Proofs/Sample/CalibrationSquare.lean

The program of the calibration tower is read as it is meant.  Every number of it is printed as a
numeral, every line is read as the words that were written, and no line leaves a parameter to
another command.  So the program is followed line by line (`Plays`): the opening brings any machine
to zero, in millimetres and with absolute axes; each layer is six strokes (`layerStrokes`); the
closing turns everything off.  The layers are an induction over their number, which the feed rates
follow: of equal ones in a row only the first is set, also where the feed rate for printing is that
of lifting or of moving.
-/
import Toolpath.Proofs.PrinterCounts
import Toolpath.Proofs.Sample.Stroke
import Toolpath.Proofs.Text.Unlines
import Toolpath.Sample.CalibrationSquare

namespace Toolpath.Sample.CalibrationSquare

open Text Numeral WrittenWord

/-! ### The numbers that are printed -/

/-- The numbers of the sides of a layer. -/
def sideNumbers (s : CalibrationSquare) : List (Float × Float) → Float → List Float
  | [], _ => []
  | (x, y) :: more, used =>
    x :: y :: (used + s.sideFilament) :: s.feedrate :: sideNumbers s more (used + s.sideFilament)

/-- The numbers of a layer. -/
def layerNumbers (s : CalibrationSquare) (number : Nat) (used : Float) : List Float :=
  [Float.ofNat (number + 1) * s.layerHeight, liftFeedrate, corner, corner, travelFeedrate]
    ++ s.sideNumbers s.corners used

/-- The numbers of the layers from the one with the given number on. -/
def towerNumbers (s : CalibrationSquare) : (count number : Nat) → (used : Float) → List Float
  | 0, _, _ => []
  | count + 1, number, used =>
    s.layerNumbers number used ++ towerNumbers s count (number + 1) (s.layer number used).2

/-- All numbers that the program prints, those of its comments among them. -/
def numbers (s : CalibrationSquare) : List Float :=
  [s.size, s.layerHeight, s.nozzleTemperature, s.bedTemperature]
    ++ s.towerNumbers s.layers.toNat 0 0.0

/-! ### The tower that is meant -/

/-- Where an axis goes for a number that is printed to so many places: the origin is zero. -/
def coordinate (places : Nat) (v : Float) : Float :=
  0.0 + printed places v

/-- The strokes of a layer, from the position `before` it: a lift, which changes Z only; a rapid
move to the corner of the square; and round the square back to that corner, in the plane of the
lift. -/
def layerStrokes (s : CalibrationSquare) (number : Nat) (used : Float)
    (before : PerAxis Float) : List Stroke :=
  let z := coordinate 3 (Float.ofNat (number + 1) * s.layerHeight)
  let far := coordinate 3 (corner + s.size)
  let f := printed 0 s.feedrate
  let first := used + s.sideFilament
  let second := first + s.sideFilament
  let third := second + s.sideFilament
  let fourth := third + s.sideFilament
  [⟨false, { before with z := z }, 300.0⟩,
   ⟨true, { before with x := 90.0, y := 90.0, z := z }, 7200.0⟩,
   ⟨false, { before with x := far, y := 90.0, z := z, e := coordinate 5 first }, f⟩,
   ⟨false, { before with x := far, y := far, z := z, e := coordinate 5 second }, f⟩,
   ⟨false, { before with x := 90.0, y := far, z := z, e := coordinate 5 third }, f⟩,
   ⟨false, { before with x := 90.0, y := 90.0, z := z, e := coordinate 5 fourth }, f⟩]

/-- The strokes of the layers from the one with the given number on. -/
def towerStrokes (s : CalibrationSquare) :
    (count number : Nat) → (used : Float) → (before : PerAxis Float) → List Stroke
  | 0, _, _, _ => []
  | count + 1, number, used, before =>
    s.layerStrokes number used before
      ++ towerStrokes s count (number + 1) (s.layer number used).2
          (Stroke.positionAfter before (s.layerStrokes number used before))

/-! ### Constants of the program -/

theorem coordinate_corner : coordinate 3 corner = 90.0 := by
  decide +kernel

theorem printed_liftFeedrate : printed 0 liftFeedrate = 300.0 := by
  decide +kernel

theorem printed_travelFeedrate : printed 0 travelFeedrate = 7200.0 := by
  decide +kernel

/-- A number as it is printed. -/
def writtenNumber (places : Nat) {v : Float} (h : v.isFinite = true) : NumeralText :=
  ⟨Fixed.write places v, Fixed.write_mem_language places h⟩

theorem unbroken_word {letter : Char} (hl : isLineBreak letter = false) (places : Nat) {v : Float}
    (h : v.isFinite = true) : Unbroken (word letter places v) :=
  .cons hl (.of_isNumeralChar fun _ =>
    isNumeralChar_of_mem_language (Fixed.write_mem_language places h))

/-- The numeral of a zero. -/
def zeroText : NumeralText :=
  ⟨['0'], (spells_digits 0).mem⟩

theorem value_zeroText : value zeroText.1 = 0.0 := by
  decide +kernel

/-! ### The lines of a layer -/

section

variable {σ : Type} {k : Device σ} (s : CalibrationSquare)

theorem plays_lift {z : Float} (hz : z.isFinite = true) (hf : liftFeedrate.isFinite = true)
    (p : PerAxis Float) (f : Float) :
    Plays {} k (printing p f)
      ("G1 ".toList ++ word 'Z' 3 z ++ [' '] ++ word 'F' 0 liftFeedrate)
      (printing { p with z := coordinate 3 z } (rateAfter f [300.0]))
      (Stroke.log f ⟨false, { p with z := coordinate 3 z }, 300.0⟩) := by
  refine .of_stroke false [(.z, writtenNumber 3 hz)] (writtenNumber 0 hf) (List.cons_ne_nil _ _) ?_
    rfl printed_liftFeedrate
  rw [texts_strokeWords_cons, texts_strokeWords_nil]
  simp only [word, List.append_assoc]
  rfl

theorem plays_rapid (hc : corner.isFinite = true) (hf : travelFeedrate.isFinite = true)
    (p : PerAxis Float) (f : Float) :
    Plays {} k (printing p f)
      ("G0 ".toList ++ word 'X' 3 corner ++ [' '] ++ word 'Y' 3 corner ++ [' ']
        ++ word 'F' 0 travelFeedrate)
      (printing { p with x := 90.0, y := 90.0 } (rateAfter f [7200.0]))
      (Stroke.log f ⟨true, { p with x := 90.0, y := 90.0 }, 7200.0⟩) := by
  refine .of_stroke true [(.x, writtenNumber 3 hc), (.y, writtenNumber 3 hc)] (writtenNumber 0 hf)
    (List.cons_ne_nil _ _) ?_ ?_ printed_travelFeedrate
  · rw [texts_strokeWords_cons, texts_strokeWords_cons, texts_strokeWords_nil]
    simp only [word, List.append_assoc]
    rfl
  · rw [← coordinate_corner]
    rfl

theorem plays_side {x y e v x' y' : Float} (hx : x.isFinite = true) (hy : y.isFinite = true)
    (he : e.isFinite = true) (hv : v.isFinite = true) (htx : coordinate 3 x = x')
    (hty : coordinate 3 y = y') (p : PerAxis Float) (f : Float) :
    Plays {} k (printing p f)
      ("G1 ".toList ++ word 'X' 3 x ++ [' '] ++ word 'Y' 3 y ++ [' '] ++ word 'E' 5 e ++ [' ']
        ++ word 'F' 0 v)
      (printing { p with x := x', y := y', e := coordinate 5 e } (rateAfter f [printed 0 v]))
      (Stroke.log f ⟨false, { p with x := x', y := y', e := coordinate 5 e }, printed 0 v⟩) := by
  subst htx hty
  refine .of_stroke false
    [(.x, writtenNumber 3 hx), (.y, writtenNumber 3 hy), (.e, writtenNumber 5 he)]
    (writtenNumber 0 hv) (List.cons_ne_nil _ _) ?_ rfl rfl
  rw [texts_strokeWords_cons, texts_strokeWords_cons, texts_strokeWords_cons,
    texts_strokeWords_nil]
  simp only [word, List.append_assoc]
  rfl

/-- The lines of a layer are its strokes. -/
theorem plays_layer {number : Nat} {used : Float}
    (h : ∀ x ∈ s.layerNumbers number used, x.isFinite = true) (p : PerAxis Float) (f : Float) :
    PlaysAll {} k (printing p f) (s.layer number used).1
      (printing (Stroke.positionAfter p (s.layerStrokes number used p))
        (Stroke.feedAfter f (s.layerStrokes number used p)))
      (Stroke.logs f (s.layerStrokes number used p)) := by
  simp only [layerNumbers, corners, sideNumbers, List.cons_append, List.nil_append,
    List.forall_mem_cons] at h
  obtain ⟨height, lift, near, -, travel, far, -, first, feed, -, -, second, -, -, -, third, -, -, -,
    fourth, -⟩ := h
  have remark (m : Machine) : Plays {} k m ("; Layer ".toList ++ Decimal.digits number) m [] :=
    .of_tail (lineTail_semicolon _)
  have empty (m : Machine) : Plays {} k m [] m [] := .of_tail (.blanks (List.forall_mem_nil _))
  have lines := PlaysAll.cons (remark _) (.cons (plays_lift height lift p f)
    (.cons (plays_rapid near travel _ _)
    (.cons (plays_side far near first feed rfl coordinate_corner _ _)
    (.cons (plays_side far far second feed rfl rfl _ _)
    (.cons (plays_side near far third feed coordinate_corner rfl _ _)
    (.cons (plays_side near near fourth feed coordinate_corner coordinate_corner _ _)
    (.cons (empty _) .nil)))))))
  -- the comment and the empty line do nothing
  rw [List.nil_append, List.nil_append] at lines
  exact lines

/-- The layers are their strokes, one layer after the other. -/
theorem plays_tower {count number : Nat} {used : Float}
    (h : ∀ x ∈ s.towerNumbers count number used, x.isFinite = true) (p : PerAxis Float)
    (f : Float) :
    PlaysAll {} k (printing p f) (s.tower count number used)
      (printing (Stroke.positionAfter p (s.towerStrokes count number used p))
        (Stroke.feedAfter f (s.towerStrokes count number used p)))
      (Stroke.logs f (s.towerStrokes count number used p)) := by
  induction count generalizing number used p f with
  | zero => exact .nil
  | succ count ih =>
    obtain ⟨layer, rest⟩ := List.forall_mem_append.1 h
    rw [towerStrokes, Stroke.logs_append, Stroke.positionAfter, Stroke.feedAfter,
      List.foldl_append, List.foldl_append]
    exact (s.plays_layer layer p f).append (ih rest _ _)

end

/-! ### What goes before and after the layers -/

section

variable {σ : Type} {k : Device σ} {told : Word → Word → List Action}

/-- What the first lines do: they heat. -/
def heatingLog (s : CalibrationSquare) (told : Word → Word → List Action) : List Action :=
  [.setTemperature (printed 0 s.nozzleTemperature)]
    ++ (bedLog told .set (Fixed.write 0 s.bedTemperature) " ; set bed temp".toList
    ++ ([.setTemperature (printed 0 s.nozzleTemperature), .waitTemperature]
    ++ bedLog told .setAndWait (Fixed.write 0 s.bedTemperature) " ; wait for bed".toList))

/-- What is done between heating and the layers. -/
def zeroingLog : List Action :=
  [.goHome AxisSet.full, .setFanSpeed (value (Decimal.digits 255))]

/-- What is done after the layers. -/
def closingLog (told : Word → Word → List Action) : List Action :=
  [.setTemperature 0.0] ++ (bedLog told .set zeroText.1 " ; bed off".toList
    ++ [.setFanSpeed 0.0, .goHome (AxisSet.ofList [.x, .y]), .disableMotors])

/-- The machine of the opening after its last command. -/
theorem rebaseAll_opening (m : Machine) :
    ((((({ m with unitScale := 1.0 } : Machine).home).setAllAbsolute true).setAbsolute .e
      true).rebaseAll [(.e, zeroText)]) = printing (PerAxis.fill 0.0) m.feedrate := by
  have zero : (0.0 : Float) - value zeroText.1 * 1.0 = 0.0 := by
    rw [value_zeroText]
    decide +kernel
  show ({ printing (PerAxis.fill 0.0) m.feedrate with
    origin := (PerAxis.fill 0.0).set .e (0.0 - value zeroText.1 * 1.0) } : Machine) = _
  rw [zero]
  rfl

/-- The first lines of the opening heat. -/
theorem plays_heating (hk : TakesBed k told) (s : CalibrationSquare)
    (hn : s.nozzleTemperature.isFinite = true) (hb : s.bedTemperature.isFinite = true)
    (m : Machine) :
    PlaysAll {} k m (s.opening.take 7) { m with unitScale := 1.0 } (s.heatingLog told) := by
  have title : Plays {} k m "; Calibration square".toList m [] :=
    .of_tail (lineTail_semicolon _)
  have choices : Plays {} k m ("; Size: ".toList ++ Shortest.write s.size
      ++ " mm, Layers: ".toList ++ integer s.layers ++ ", Layer height: ".toList
      ++ Shortest.write s.layerHeight ++ " mm".toList) m [] :=
    .of_tail (lineTail_semicolon _)
  have millimetres : Plays {} k m "G21 ; millimetres".toList { m with unitScale := 1.0 } [] :=
    Plays.of_bare (c := .useMillimetres) (lineTail_comment " millimetres".toList) rfl
  have nozzle (m : Machine) : Plays {} k m
      ("M104 ".toList ++ word 'S' 0 s.nozzleTemperature ++ " ; set hotend temp".toList) m
      [.setTemperature (printed 0 s.nozzleTemperature)] :=
    .of_setTemperature (writtenNumber 0 hn) (lineTail_comment " set hotend temp".toList)
  have bed (m : Machine) : Plays {} k m
      ("M140 ".toList ++ word 'S' 0 s.bedTemperature ++ " ; set bed temp".toList) m
      (bedLog told .set (Fixed.write 0 s.bedTemperature) " ; set bed temp".toList) :=
    .of_bed hk .set (writtenNumber 0 hb) (lineTail_comment " set bed temp".toList)
  have nozzleAndWait (m : Machine) : Plays {} k m
      ("M109 ".toList ++ word 'S' 0 s.nozzleTemperature ++ " ; wait for hotend".toList) m
      [.setTemperature (printed 0 s.nozzleTemperature), .waitTemperature] :=
    .of_setTemperatureAndWait (writtenNumber 0 hn) (lineTail_comment " wait for hotend".toList)
  have bedAndWait (m : Machine) : Plays {} k m
      ("M190 ".toList ++ word 'S' 0 s.bedTemperature ++ " ; wait for bed".toList) m
      (bedLog told .setAndWait (Fixed.write 0 s.bedTemperature) " ; wait for bed".toList) :=
    .of_bed hk .setAndWait (writtenNumber 0 hb) (lineTail_comment " wait for bed".toList)
  have lines := PlaysAll.cons title (.cons choices (.cons millimetres (.cons (nozzle _)
    (.cons (bed _) (.cons (nozzleAndWait _) (.cons (bedAndWait _) .nil))))))
  simp only [List.nil_append, List.append_nil] at lines
  exact lines

/-- The other lines of the opening bring the machine to zero, whatever it did before; only the feed
rate is kept. -/
theorem plays_zeroing (s : CalibrationSquare) (m : Machine) :
    PlaysAll {} k { m with unitScale := 1.0 } (s.opening.drop 7)
      (printing (PerAxis.fill 0.0) m.feedrate) zeroingLog := by
  have home (m : Machine) : Plays {} k m "G28 ; home all axes".toList m.home
      [.goHome AxisSet.full] :=
    .of_home [] (lineTail_comment " home all axes".toList)
  have absolute (m : Machine) : Plays {} k m "G90 ; absolute positioning".toList
      (m.setAllAbsolute true) [] :=
    Plays.of_bare (c := .absolute) (lineTail_comment " absolute positioning".toList) rfl
  have extruder (m : Machine) : Plays {} k m "M82 ; absolute extrusion".toList
      (m.setAbsolute .e true) [] :=
    Plays.of_bare (c := .absoluteExtruder) (lineTail_comment " absolute extrusion".toList) rfl
  have rebase (m : Machine) : Plays {} k m "G92 E0 ; reset extruder".toList
      (m.rebaseAll [(.e, zeroText)]) [] :=
    .of_rebase [(.e, zeroText)] (lineTail_comment " reset extruder".toList)
  have fan (m : Machine) : Plays {} k m "M106 S255 ; fan on full".toList m
      [.setFanSpeed (value (Decimal.digits 255))] :=
    .of_setFanSpeed ⟨_, (spells_digits 255).mem⟩ (lineTail_comment " fan on full".toList)
  have empty (m : Machine) : Plays {} k m [] m [] := .of_tail (.blanks (List.forall_mem_nil _))
  have lines := PlaysAll.cons (home { m with unitScale := 1.0 }) (.cons (absolute _)
    (.cons (extruder _) (.cons (rebase _) (.cons (fan _) (.cons (empty _) .nil)))))
  rw [rebaseAll_opening] at lines
  simp only [List.nil_append, List.append_nil] at lines
  exact lines

/-- The closing turns all off and leaves the machine at zero. -/
theorem plays_closing (hk : TakesBed k told) (m : Machine) :
    PlaysAll {} k m closing m.home (closingLog told) := by
  have remark : Plays {} k m "; End".toList m [] := .of_tail (lineTail_semicolon _)
  have nozzle : Plays {} k m "M104 S0 ; hotend off".toList m
      [.setTemperature (value zeroText.1)] :=
    .of_setTemperature zeroText (lineTail_comment " hotend off".toList)
  have bed : Plays {} k m "M140 S0 ; bed off".toList m
      (bedLog told .set zeroText.1 " ; bed off".toList) :=
    .of_bed hk .set zeroText (lineTail_comment " bed off".toList)
  have fan : Plays {} k m "M107 ; fan off".toList m [.setFanSpeed 0.0] :=
    Plays.of_bare (c := .fanOff) (lineTail_comment " fan off".toList) rfl
  have home : Plays {} k m "G28 X0 Y0 ; home X Y".toList m.home
      [.goHome (AxisSet.ofList [.x, .y])] :=
    .of_home [(.x, zeroText), (.y, zeroText)] (lineTail_comment " home X Y".toList)
  have motors : Plays {} k m.home "M84 ; disable steppers".toList m.home [.disableMotors] :=
    Plays.of_bare (c := .disableMotors) (lineTail_comment " disable steppers".toList) rfl
  have lines := PlaysAll.cons remark (.cons nozzle (.cons bed (.cons fan (.cons home
    (.cons motors .nil)))))
  rw [value_zeroText] at lines
  simp only [List.nil_append, List.append_nil] at lines
  exact lines

end

end Toolpath.Sample.CalibrationSquare
