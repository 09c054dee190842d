/-
Toolpath/Device/Printer.lean

A printer simulated in memory.  It follows the actions of a program with a few registers
and counts.  Two codes that are handed over are its own: they set the temperature of the
bed from a setting that follows, and the second of them waits for it, too.  All other
words that are handed over are ignored, and kept in a list.
-/
import Toolpath.Device.Basic
import Toolpath.Word.Reader

namespace Toolpath

/-- The registers and counts of the printer. -/
structure Printer where
  position : PerAxis Float
  feedrate : Float
  hotendTarget : Float
  bedTarget : Float
  fanSpeed : Float
  motorsEnabled : Bool
  homed : AxisSet
  moveCount : Nat
  rapidCount : Nat
  waitCount : Nat
  ignoredWords : Array Text
  deriving DecidableEq

namespace Printer

/-- The printer at power-on. -/
def powerOn : Printer where
  position := PerAxis.fill 0.0
  feedrate := 0.0
  hotendTarget := 0.0
  bedTarget := 0.0
  fanSpeed := 0.0
  motorsEnabled := false
  homed := AxisSet.empty
  moveCount := 0
  rapidCount := 0
  waitCount := 0
  ignoredWords := #[]

/-- All registers and counts put back. -/
def reset (p : Printer) : Printer :=
  { p with
    position := PerAxis.fill 0.0
    feedrate := 0.0
    hotendTarget := 0.0
    bedTarget := 0.0
    fanSpeed := 0.0
    motorsEnabled := false
    homed := AxisSet.empty
    moveCount := 0
    rapidCount := 0
    waitCount := 0
    ignoredWords := #[] }

/-- No register and no count is forgotten. -/
theorem reset_eq (p : Printer) : p.reset = powerOn := rfl

/-! ### The codes of the bed -/

/-- What a code asks of the bed. -/
inductive BedCommand
  | set
  | setAndWait
  deriving DecidableEq, Repr

/-- What a word asks of the bed, by its text. -/
def bedCommand? (w : Word) : Option BedCommand :=
  if w.text = "M140".toList then some .set
  else if w.text = "M190".toList then some .setAndWait
  else none

/-- The bed set to the temperature that the text names, if it names one. -/
def setBed (d : Dialect) (t : Text) (p : Printer) : Printer :=
  match Word.setting? d t with
  | some (v, _) => { p with bedTarget := v }
  | none => p

/-- The text after the temperature, if the text names one. -/
def afterBed (d : Dialect) (t : Text) : Text :=
  match Word.setting? d t with
  | some (_, rest) => rest
  | none => t

/-! ### Actions -/

/-- All axes sent to a position. -/
def moveTo (target : PerAxis Float) (p : Printer) : Printer :=
  { p with position := target, motorsEnabled := true, moveCount := p.moveCount + 1 }

/-- Some axes sent home. -/
def goHome (axes : AxisSet) (p : Printer) : Printer :=
  { p with
    position := PerAxis.zipWith (fun named v => if named then 0.0 else v) axes p.position
    homed := p.homed.union axes
    motorsEnabled := true }

/-- A word that was handed over. -/
def takeWord (d : Dialect) (w : Word) (p : Printer) : Printer :=
  match bedCommand? w with
  | some .set => setBed d w.rest p
  | some .setAndWait =>
    let set := setBed d w.rest p
    { set with waitCount := set.waitCount + 1 }
  | none => { p with ignoredWords := p.ignoredWords.push w.text }

/-- The printer after an action.  Motors that are off may be turned by hand, so then no
axis counts as homed. -/
def accept (d : Dialect) (a : Action) (p : Printer) : Printer :=
  match a with
  | .rapidMove target => { moveTo target p with rapidCount := p.rapidCount + 1 }
  | .coordinatedMove target => moveTo target p
  | .setFeedrate v => { p with feedrate := v }
  | .setTemperature v => { p with hotendTarget := v }
  | .setFanSpeed v => { p with fanSpeed := v }
  | .waitTemperature => { p with waitCount := p.waitCount + 1 }
  | .disableMotors => { p with motorsEnabled := false, homed := AxisSet.empty }
  | .goHome axes => goHome axes p
  | .handOver w => takeWord d w p

/-- What the log says: only that a word was ignored. -/
def entries : Action → List LogEntry
  | .handOver w =>
    match bedCommand? w with
    | some _ => []
    | none => [⟨.debug, "ignoring ".toList ++ w.text⟩]
  | _ => []

/-- Reading goes on after the words the printer has used. -/
def resume (d : Dialect) (w : Word) : Text :=
  match bedCommand? w with
  | some _ => afterBed d w.rest
  | none => w.rest

theorem afterBed_suffix (d : Dialect) (t : Text) : afterBed d t <:+ t := by
  rw [afterBed]
  split
  · next h => exact Word.setting?_suffix h
  · exact List.suffix_refl t

theorem resume_suffix (d : Dialect) (w : Word) : resume d w <:+ w.rest := by
  rw [resume]
  split
  · exact afterBed_suffix d w.rest
  · exact List.suffix_refl w.rest

end Printer

/-- The simulated printer. -/
def printer (d : Dialect) : Device Printer where
  accept := Printer.accept d
  resume w _ := some (Printer.resume d w)
  entries := Printer.entries
  length_resume_le h := Option.some.inj h ▸ (Printer.resume_suffix d _).length_le

end Toolpath
