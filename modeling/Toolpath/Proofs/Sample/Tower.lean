/-
Toolpath/Proofs/Sample/Tower.lean

The calibration tower as a whole: what a recorder, the printer and a device that only announces make
of the program (`readProgram_calibrationSquare`).  What they are told is known from the lines, so
this is about the actions alone: which of them are about the axes, which feed rates are set, and
what the printer counts.
-/
import Toolpath.Proofs.PrinterCounts
import Toolpath.Proofs.Sample.CalibrationSquare

namespace Toolpath.Sample.CalibrationSquare

open Text Numeral WrittenWord

variable (s : CalibrationSquare)

/-! ### The lines of the text -/

theorem unbroken_integer (n : Int) : Unbroken (integer n) :=
  .of_isNumeralChar ((Layout.plain_sign _).append (Layout.plain_digits _))

/-- No line of the opening has a break. -/
theorem unbroken_opening (h : ∀ x ∈ s.numbers, x.isFinite = true) :
    ∀ l ∈ s.opening, Unbroken l := by
  simp only [numbers, List.cons_append, List.nil_append, List.forall_mem_cons] at h
  obtain ⟨size, height, nozzle, bed, -⟩ := h
  have choices : Unbroken ("; Size: ".toList ++ Shortest.write s.size ++ " mm, Layers: ".toList
      ++ integer s.layers ++ ", Layer height: ".toList ++ Shortest.write s.layerHeight
      ++ " mm".toList) := by
    have size := Unbroken.of_isNumeralChar (Shortest.plain_write size)
    have height := Unbroken.of_isNumeralChar (Shortest.plain_write height)
    refine .append (.append (.append (.append (.append (.append ?_ size) ?_)
      (unbroken_integer _)) ?_) height) ?_ <;> decide +kernel
  -- a code with a temperature, and a comment
  have heating {code comment : Text} {v : Float} (hv : v.isFinite = true) (hc : Unbroken code)
      (ht : Unbroken comment) : Unbroken (code ++ word 'S' 0 v ++ comment) :=
    (hc.append (unbroken_word (by decide) 0 hv)).append ht
  simp only [opening, List.forall_mem_cons]
  refine ⟨?_, choices, ?_, heating nozzle ?_ ?_, heating bed ?_ ?_, heating nozzle ?_ ?_,
    heating bed ?_ ?_, ?_, ?_, ?_, ?_, ?_, ?_, List.forall_mem_nil _⟩ <;> decide +kernel

theorem unbroken_sides {corners : List (Float × Float)} {used : Float}
    (h : ∀ x ∈ s.sideNumbers corners used, x.isFinite = true) :
    ∀ l ∈ (s.sides corners used).1, Unbroken l := by
  induction corners generalizing used with
  | nil => exact List.forall_mem_nil _
  | cons c corners ih =>
    simp only [sideNumbers, List.forall_mem_cons] at h
    obtain ⟨hx, hy, he, hf, more⟩ := h
    have code : Unbroken "G1 ".toList := by decide +kernel
    have blank : Unbroken [' '] := by decide +kernel
    exact List.forall_mem_cons.2
      ⟨((((((code.append (unbroken_word (by decide) 3 hx)).append blank).append
        (unbroken_word (by decide) 3 hy)).append blank).append
        (unbroken_word (by decide) 5 he)).append blank).append (unbroken_word (by decide) 0 hf),
        ih more⟩

/-- No line of the layers has a break. -/
theorem unbroken_tower {count number : Nat} {used : Float}
    (h : ∀ x ∈ s.towerNumbers count number used, x.isFinite = true) :
    ∀ l ∈ s.tower count number used, Unbroken l := by
  induction count generalizing number used with
  | zero => exact List.forall_mem_nil _
  | succ count ih =>
    obtain ⟨layer, rest⟩ := List.forall_mem_append.1 h
    refine List.forall_mem_append.2 ⟨?_, ih rest⟩
    simp only [layerNumbers, List.cons_append, List.nil_append, List.forall_mem_cons] at layer
    obtain ⟨height, lift, near, -, travel, sides⟩ := layer
    have title : Unbroken ("; Layer ".toList ++ Decimal.digits number) :=
      .append (by decide +kernel) (.of_isNumeralChar (Layout.plain_digits _))
    have lift : Unbroken ("G1 ".toList ++ word 'Z' 3 (Float.ofNat (number + 1) * s.layerHeight)
        ++ [' '] ++ word 'F' 0 liftFeedrate) :=
      .append (.append (.append (by decide +kernel) (unbroken_word (by decide) 3 height))
        (by decide)) (unbroken_word (by decide) 0 lift)
    have rapid : Unbroken ("G0 ".toList ++ word 'X' 3 corner ++ [' '] ++ word 'Y' 3 corner ++ [' ']
        ++ word 'F' 0 travelFeedrate) :=
      .append (.append (.append (.append (.append (by decide +kernel)
        (unbroken_word (by decide) 3 near)) (by decide)) (unbroken_word (by decide) 3 near))
        (by decide)) (unbroken_word (by decide) 0 travel)
    refine List.forall_mem_append.2 ⟨List.forall_mem_append.2 ⟨?_, s.unbroken_sides sides⟩, ?_⟩
    · simp only [List.forall_mem_cons]
      exact ⟨title, lift, rapid, List.forall_mem_nil _⟩
    · exact List.forall_mem_singleton.2 (List.forall_mem_nil _)

theorem unbroken_closing : ∀ l ∈ closing, Unbroken l := by
  decide +kernel

theorem length_tower (count number : Nat) (used : Float) :
    (s.tower count number used).length = 8 * count := by
  induction count generalizing number used with
  | zero => rfl
  | succ count ih =>
    rw [tower, List.length_append, ih, show (s.layer number used).1.length = 8 from rfl]
    omega

/-! ### The strokes of the tower -/

theorem length_towerStrokes (count number : Nat) (used : Float) (p : PerAxis Float) :
    (s.towerStrokes count number used p).length = 6 * count := by
  induction count generalizing number used p with
  | zero => rfl
  | succ count ih =>
    rw [towerStrokes, List.length_append, ih,
      show (s.layerStrokes number used p).length = 6 from rfl]
    omega

/-- One stroke of each layer is rapid. -/
theorem countP_rapid_towerStrokes (count number : Nat) (used : Float) (p : PerAxis Float) :
    (s.towerStrokes count number used p).countP Stroke.rapid = count := by
  induction count generalizing number used p with
  | zero => rfl
  | succ count ih =>
    rw [towerStrokes, List.countP_append, ih,
      show (s.layerStrokes number used p).countP Stroke.rapid = 1 from rfl]
    omega

/-- The feed rates that the program gives. -/
theorem feedrate_towerStrokes (count number : Nat) (used : Float) (p : PerAxis Float) :
    (s.towerStrokes count number used p).map Stroke.feedrate
      = (List.replicate count [300.0, 7200.0, printed 0 s.feedrate, printed 0 s.feedrate,
          printed 0 s.feedrate, printed 0 s.feedrate]).flatten := by
  induction count generalizing number used p with
  | zero => rfl
  | succ count ih =>
    rw [towerStrokes, List.map_append, ih, List.replicate_succ, List.flatten_cons]
    rfl

/-- The axes that turn stay at zero. -/
theorem turns_towerStrokes (count number : Nat) (used : Float) {p : PerAxis Float}
    (hp : p.a = 0.0 ∧ p.b = 0.0 ∧ p.c = 0.0) :
    ∀ t ∈ s.towerStrokes count number used p,
      t.target.a = 0.0 ∧ t.target.b = 0.0 ∧ t.target.c = 0.0 := by
  induction count generalizing number used p with
  | zero => exact List.forall_mem_nil _
  | succ count ih =>
    rw [towerStrokes]
    refine List.forall_mem_append.2 ⟨?_, ih _ _ hp⟩
    simp only [layerStrokes, List.forall_mem_cons]
    exact ⟨hp, hp, hp, hp, hp, hp, List.forall_mem_nil _⟩

/-! ### The program -/

/-- All strokes of the tower. -/
def strokes : List Stroke :=
  s.towerStrokes s.layers.toNat 0 0.0 (PerAxis.fill 0.0)

/-- What a device is told of the whole program. -/
def programLog (told : Word → Word → List Action) : List Action :=
  s.heatingLog told ++ (zeroingLog ++ (Stroke.logs 0.0 s.strokes ++ closingLog told))

section

variable {σ : Type} {k : Device σ} {told : Word → Word → List Action} {s}

/-- The lines of the text are those that were put together. -/
theorem lines_text (h : ∀ x ∈ s.numbers, x.isFinite = true) :
    lines s.text = s.opening ++ s.tower s.layers.toNat 0 0.0 ++ closing := by
  have layers : ∀ x ∈ s.towerNumbers s.layers.toNat 0 0.0, x.isFinite = true :=
    (List.forall_mem_append.1 h).2
  exact lines_unlines (List.forall_mem_append.2
    ⟨List.forall_mem_append.2 ⟨s.unbroken_opening h, s.unbroken_tower layers⟩, unbroken_closing⟩)

/-- The lines of the program, from any machine.  Of the machine only the feed rate is left when the
strokes begin. -/
theorem playsAll_lines (hk : TakesBed k told) (h : ∀ x ∈ s.numbers, x.isFinite = true)
    (m : Machine) :
    PlaysAll {} k m (s.opening ++ s.tower s.layers.toNat 0 0.0 ++ closing)
      (printing (Stroke.positionAfter (PerAxis.fill 0.0) s.strokes)
        (Stroke.feedAfter m.feedrate s.strokes)).home
      (s.heatingLog told
        ++ (zeroingLog ++ (Stroke.logs m.feedrate s.strokes ++ closingLog told))) := by
  obtain ⟨choices, layers⟩ := List.forall_mem_append.1 h
  have nozzle : s.nozzleTemperature.isFinite = true := choices _ (by simp)
  have bed : s.bedTemperature.isFinite = true := choices _ (by simp)
  have heating := plays_heating hk s nozzle bed m
  have zeroing := s.plays_zeroing (k := k) m
  have tower := s.plays_tower (k := k) layers (PerAxis.fill 0.0) m.feedrate
  rw [← List.take_append_drop 7 s.opening, List.append_assoc, List.append_assoc]
  exact heating.append (zeroing.append (tower.append (plays_closing hk _)))

theorem length_lines :
    (s.opening ++ s.tower s.layers.toNat 0 0.0 ++ closing).length = 19 + 8 * s.layers.toNat := by
  rw [List.length_append, List.length_append, length_tower,
    show s.opening.length = 13 from rfl, show closing.length = 6 from rfl]
  omega

/-- What the program does to any interpreter. -/
theorem readProgram_eq_proceed (hk : TakesBed k told) (h : ∀ x ∈ s.numbers, x.isFinite = true)
    (i : Interpreter σ) :
    i.readProgram {} k s.text
      = { i.proceed k
            (printing (Stroke.positionAfter (PerAxis.fill 0.0) s.strokes)
              (Stroke.feedAfter i.machine.feedrate s.strokes)).home
            (s.heatingLog told
              ++ (zeroingLog ++ (Stroke.logs i.machine.feedrate s.strokes ++ closingLog told))) with
          lineCount := 19 + 8 * s.layers.toNat
          diagnostics := #[] } := by
  rw [Interpreter.readProgram, lines_text h, (playsAll_lines hk h i.machine).readLines rfl,
    length_lines]

/-- And to one at power-on. -/
theorem readProgram_text (hk : TakesBed k told) (h : ∀ x ∈ s.numbers, x.isFinite = true) (x : σ) :
    (Interpreter.start {} x).readProgram {} k s.text
      = { (Interpreter.start {} x).proceed k
            (printing (Stroke.positionAfter (PerAxis.fill 0.0) s.strokes)
              (Stroke.feedAfter 0.0 s.strokes)).home (s.programLog told) with
          lineCount := 19 + 8 * s.layers.toNat
          diagnostics := #[] } :=
  readProgram_eq_proceed hk h (Interpreter.start {} x)

end

/-! ### What a recorder is told -/

section

variable (told : Word → Word → List Action)

/-- No feed rate satisfies `q`, so the strokes are their moves. -/
theorem filter_programLog {q : Action → Bool} (hf : ∀ v, q (.setFeedrate v) = false) :
    (s.programLog told).filter q
      = (s.heatingLog told).filter q ++ (zeroingLog.filter q
        ++ ((s.strokes.map Stroke.action).filter q ++ (closingLog told).filter q)) := by
  rw [programLog, List.filter_append, List.filter_append, List.filter_append,
    Stroke.filter_logs hf]

theorem countP_programLog {q : Action → Bool} (hf : ∀ v, q (.setFeedrate v) = false) :
    (s.programLog told).countP q
      = (s.heatingLog told).countP q + (zeroingLog.countP q
        + ((s.strokes.map Stroke.action).countP q + (closingLog told).countP q)) := by
  simp only [List.countP_eq_length_filter, s.filter_programLog told hf, List.length_append]

end

theorem filter_resting?_programLog :
    (s.programLog fun w v => [.handOver w, .handOver v]).filter (fun a => a.resting?.isSome)
      = .goHome AxisSet.full
        :: (s.strokes.map Stroke.action ++ [.goHome (AxisSet.ofList [.x, .y])]) := by
  have moves : (s.strokes.map Stroke.action).filter (fun a => a.resting?.isSome)
      = s.strokes.map Stroke.action := by
    refine List.filter_eq_self.2 (List.forall_mem_map.2 fun t _ => ?_)
    rw [t.resting?_action]
    rfl
  rw [s.filter_programLog _ fun _ => rfl, moves]
  rfl

theorem feedrates_programLog :
    Action.feedrates (s.programLog fun w v => [.handOver w, .handOver v])
      = (List.replicate s.layers.toNat [300.0, 7200.0, printed 0 s.feedrate, printed 0 s.feedrate,
          printed 0 s.feedrate, printed 0 s.feedrate]).flatten.destutter Changes := by
  have lift : ∀ t ∈ s.strokes.head?, Changes 0.0 t.feedrate := by
    have changes : Changes 0.0 300.0 := by decide +kernel
    intro t ht
    rw [strokes] at ht
    generalize s.layers.toNat = n at ht
    cases n with
    | zero => cases ht
    | succ n =>
      cases ht
      exact changes
  have rates := Stroke.feedrates_logs_eq_destutter lift
  rw [strokes, feedrate_towerStrokes, ← strokes] at rates
  rw [← rates, programLog, Action.feedrates, List.filterMap_append, List.filterMap_append,
    List.filterMap_append]
  exact List.append_nil _

/-! ### What is left of the printer -/

theorem acceptAll_closingLog (p : Printer) :
    (printer {}).acceptAll (closingLog fun w _ => [.handOver w]) p
      = { p with
          position := { p.position with x := 0.0, y := 0.0 }
          hotendTarget := 0.0
          bedTarget := 0.0
          fanSpeed := 0.0
          motorsEnabled := false
          homed := AxisSet.empty } := by
  have bed (p : Printer) : Printer.takeWord {} (Printer.BedCommand.set.word
      (trimStart (' ' :: 'S' :: (zeroText.1 ++ " ; bed off".toList)))) p
        = { p with bedTarget := 0.0 } := by
    have taken := takeWord_bedWord zeroText (lineTail_comment " bed off".toList) p
    rwa [value_zeroText] at taken
  show (printer {}).acceptAll [.setFanSpeed 0.0, .goHome (AxisSet.ofList [.x, .y]), .disableMotors]
    (Printer.takeWord {} _ { p with hotendTarget := 0.0 }) = _
  rw [bed]
  rfl

/-- What the printer is told of the program, from power-on. -/
theorem acceptAll_programLog :
    let p := (printer {}).acceptAll (s.programLog fun w _ => [.handOver w]) Printer.powerOn
    p.position = { Stroke.positionAfter (PerAxis.fill 0.0) s.strokes with x := 0.0, y := 0.0 } ∧
      p.hotendTarget = 0.0 ∧ p.bedTarget = 0.0 ∧ p.fanSpeed = 0.0 ∧ p.motorsEnabled = false ∧
      p.homed = AxisSet.empty := by
  intro p
  have last : p = (printer {}).acceptAll (closingLog fun w _ => [.handOver w])
      ((printer {}).acceptAll (Stroke.logs 0.0 s.strokes) ((printer {}).acceptAll zeroingLog
        ((printer {}).acceptAll (s.heatingLog fun w _ => [.handOver w]) Printer.powerOn))) := by
    simp only [p, programLog, Device.acceptAll_append]
  rw [last, acceptAll_closingLog]
  refine ⟨?_, rfl, rfl, rfl, rfl, rfl⟩
  -- the printer is at zero when the strokes begin
  simp only [Stroke.position_acceptAll_logs]
  rfl

/-- It waits for the hotend and for the bed. -/
theorem countP_waits_programLog :
    (s.programLog fun w _ => [.handOver w]).countP Printer.waits = 2 := by
  have still : (s.strokes.map Stroke.action).countP Printer.waits = 0 := by
    refine List.countP_eq_zero.2 (List.forall_mem_map.2 fun t _ => ?_)
    rcases t with ⟨- | -, target, v⟩ <;> exact Bool.false_ne_true
  rw [s.countP_programLog _ fun _ => rfl, still]
  simp [heatingLog, zeroingLog, closingLog, bedLog, Printer.waits, List.countP_cons,
    Printer.BedCommand.bedCommand?_word]

theorem countP_moves_programLog :
    (s.programLog fun w _ => [.handOver w]).countP (fun a => a.target?.isSome)
      = 6 * s.layers.toNat := by
  have moves : (s.strokes.map Stroke.action).countP (fun a => a.target?.isSome)
      = s.strokes.length := by
    rw [← List.length_map (f := Stroke.action)]
    refine List.countP_eq_length.2 (List.forall_mem_map.2 fun t _ => ?_)
    rw [t.target?_action]
    rfl
  rw [s.countP_programLog _ fun _ => rfl, moves, strokes, length_towerStrokes]
  show 0 + (0 + (6 * s.layers.toNat + 0)) = _
  omega

theorem countP_rapid_programLog :
    (s.programLog fun w _ => [.handOver w]).countP Action.isRapidMove = s.layers.toNat := by
  have rapid : (s.strokes.map Stroke.action).countP Action.isRapidMove
      = s.strokes.countP Stroke.rapid := by
    rw [List.countP_map]
    refine List.countP_congr fun t _ => ?_
    rcases t with ⟨- | -, target, v⟩ <;> rfl
  rw [s.countP_programLog _ fun _ => rfl, rapid, strokes, countP_rapid_towerStrokes]
  show 0 + (0 + (s.layers.toNat + 0)) = _
  omega

/-- Nothing is ignored. -/
theorem filterMap_ignored?_programLog :
    (s.programLog fun w _ => [.handOver w]).filterMap Printer.ignored? = [] := by
  have heeded : (s.programLog fun w _ => [.handOver w]).filter
      (fun a => (Printer.ignored? a).isSome) = [] := by
    have strokes : (s.strokes.map Stroke.action).filter (fun a => (Printer.ignored? a).isSome)
        = [] := by
      refine List.filter_eq_nil_iff.2 (List.forall_mem_map.2 fun t _ => ?_)
      rcases t with ⟨- | -, target, v⟩ <;> exact Bool.false_ne_true
    rw [s.filter_programLog _ fun _ => rfl, strokes]
    simp [heatingLog, zeroingLog, closingLog, bedLog, Printer.ignored?,
      Printer.BedCommand.bedCommand?_word]
  refine List.filterMap_eq_nil_iff.2 fun a ha => ?_
  simpa using List.filter_eq_nil_iff.1 heeded a ha

/-! ### The tower -/

/-- The tower as it is meant is what its program is read as, if all numbers that are printed are
finite; a negative number of layers is none.  Any device is told of `19 + 8 * n` lines without a
diagnostic, also one that drops the rest of a line after a code of the bed.  Of the axes, a recorder
is told that all go home, then the strokes of each layer, and that X and Y go home; A, B and C stay
at zero.  The feed rates it is told are those of the lift, of the way to the corner and of the four
sides of each layer, and of equal ones in a row only the first.  The printer ends with all turned
off; it waited for the hotend and for the bed, and ignored nothing. -/
theorem readProgram_calibrationSquare (s : CalibrationSquare)
    (h : ∀ x ∈ s.numbers, x.isFinite = true) :
    let n := s.layers.toNat
    let f := printed 0 s.feedrate
    let announced := (Interpreter.start {} ()).readProgram {} announcer s.text
    let recorded := (Interpreter.start {} #[]).readProgram {} recorder s.text
    let driven := (Interpreter.start {} Printer.powerOn).readProgram {} (printer {}) s.text
    let log := recorded.device.toList
    let p := driven.device
    (announced.lineCount = 19 + 8 * n ∧ announced.diagnostics = #[]) ∧
    (recorded.lineCount = 19 + 8 * n ∧ recorded.diagnostics = #[] ∧
      log.filter (fun a => a.resting?.isSome)
        = .goHome AxisSet.full
          :: (s.strokes.map Stroke.action ++ [.goHome (AxisSet.ofList [.x, .y])]) ∧
      (∀ t ∈ s.strokes, t.target.a = 0.0 ∧ t.target.b = 0.0 ∧ t.target.c = 0.0) ∧
      Action.feedrates log
        = (List.replicate n [300.0, 7200.0, f, f, f, f]).flatten.destutter Changes) ∧
    (driven.lineCount = 19 + 8 * n ∧ driven.diagnostics = #[] ∧
      p.position
        = { Stroke.positionAfter (PerAxis.fill 0.0) s.strokes with x := 0.0, y := 0.0 } ∧
      p.hotendTarget = 0.0 ∧ p.bedTarget = 0.0 ∧ p.fanSpeed = 0.0 ∧ p.motorsEnabled = false ∧
      p.homed = AxisSet.empty ∧ p.waitCount = 2 ∧ p.moveCount = 6 * n ∧ p.rapidCount = n ∧
      p.ignoredWords = #[]) := by
  intro n f announced recorded driven log p
  have announcing := readProgram_text takesBed_announcer h ()
  have recording := readProgram_text takesBed_recorder h #[]
  have driving := readProgram_text takesBed_printer h Printer.powerOn
  have log_eq : log = s.programLog fun w v => [.handOver w, .handOver v] :=
    (congrArg (fun i => i.device.toList) recording).trans (toList_acceptAll_recorder _ #[])
  have printer_eq : p
      = (printer {}).acceptAll (s.programLog fun w _ => [.handOver w]) Printer.powerOn :=
    congrArg Interpreter.device driving
  have turns := s.turns_towerStrokes n 0 0.0 (p := PerAxis.fill 0.0) ⟨rfl, rfl, rfl⟩
  refine ⟨⟨congrArg Interpreter.lineCount announcing, congrArg Interpreter.diagnostics announcing⟩,
    ⟨congrArg Interpreter.lineCount recording, congrArg Interpreter.diagnostics recording, ?axes,
      turns, ?rates⟩,
    congrArg Interpreter.lineCount driving, congrArg Interpreter.diagnostics driving, ?printer⟩
  case axes => rw [log_eq, filter_resting?_programLog]
  case rates => rw [log_eq, feedrates_programLog]
  case printer =>
    obtain ⟨position, hotend, bed, fan, motors, homed⟩ := s.acceptAll_programLog
    rw [printer_eq]
    refine ⟨position, hotend, bed, fan, motors, homed, ?_, ?_, ?_, ?_⟩
    · rw [Printer.waitCount_acceptAll, countP_waits_programLog]
      rfl
    · rw [Printer.moveCount_acceptAll, countP_moves_programLog]
      exact Nat.zero_add _
    · rw [Printer.rapidCount_acceptAll, countP_rapid_programLog]
      exact Nat.zero_add _
    · rw [ignoredWords_powerOn, filterMap_ignored?_programLog]

/-- Two layers, printed as slowly as the nozzle is lifted: between the sides of the first layer and
the lift to the second no feed rate is set. -/
theorem readProgram_slow :
    let s : CalibrationSquare := { layers := 2, speed := 5.0 }
    let recorded := (Interpreter.start {} #[]).readProgram {} recorder s.text
    let driven := (Interpreter.start {} Printer.powerOn).readProgram {} (printer {}) s.text
    (∀ x ∈ s.numbers, x.isFinite = true) ∧ recorded.lineCount = 35 ∧
      Action.feedrates recorded.device.toList = [300.0, 7200.0, 300.0, 7200.0, 300.0] ∧
      driven.device.moveCount = 12 := by
  have finite : ∀ x ∈ ({ layers := 2, speed := 5.0 } : CalibrationSquare).numbers,
      x.isFinite = true := by
    decide +kernel
  obtain ⟨-, ⟨count, -, -, -, rates⟩, -, -, -, -, -, -, -, -, -, moves, -⟩ :=
    readProgram_calibrationSquare _ finite
  refine ⟨finite, count, rates.trans ?_, moves⟩
  decide +kernel

end Toolpath.Sample.CalibrationSquare
