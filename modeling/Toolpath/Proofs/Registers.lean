/-
Toolpath/Proofs/Registers.lean

What the registers of modes and origins say about the commands that were run.  At every moment that
can be reached, on a line or between two lines, they are functions of the history alone: the unit
and the modes go by the last command that is about them, and the origin of an axis goes by the last
word that a `G92` took for the axis since the last `G28` (`reachable_registers`).

Each register has one lemma that says what a command leaves in it (`unitScale_run`,
`get_absolute_run`, `origin_run`), and one that says what a command adds to the history as far as
the register is concerned; the invariant `Recounts` follows from them.
-/
import Mathlib.Data.List.DropRight
import Toolpath.Device.Recorder
import Toolpath.Proofs.Reachable

namespace Toolpath

/-! ### What a command leaves in the registers -/

namespace Command

/-- The words of a move leave the unit, the modes and the origins. -/
theorem takeMoveWords_keeps (m : Machine) (ws : List Word) :
    (takeMoveWords m ws).1.unitScale = m.unitScale ∧
      (takeMoveWords m ws).1.absolute = m.absolute ∧ (takeMoveWords m ws).1.origin = m.origin := by
  induction ws generalizing m with
  | nil => exact ⟨rfl, rfl, rfl⟩
  | cons w ws ih =>
    rw [takeMoveWords]
    split
    · split
      · exact ih { m with feedrate := w.value * m.unitScale }
      · exact ih m
    · split
      · next i _ => exact ih (m.moveAxis i (w.value * m.unitScale))
      · exact ih m

variable (d : Dialect) (m : Machine) (t : Text) (c : Command)

/-- Commands with the letter `M` leave all registers, but for the two about the extruder. -/
theorem machine_run_of_letter (hl : c.code.1 = 'M') (ha : c ≠ .absoluteExtruder)
    (hr : c ≠ .relativeExtruder) : (c.run d m t).machine = m := by
  cases c with
  | absoluteExtruder => exact absurd rfl ha
  | relativeExtruder => exact absurd rfl hr
  | disableMotors | fanOff | waitTemperature => rfl
  | setTemperature | setFanSpeed | setTemperatureAndWait => exact machine_runSetting d _ m t
  | _ => exact absurd hl (by decide)

theorem unitScale_run :
    (c.run d m t).machine.unitScale
      = match c with
        | .useInches => d.inchScale
        | .useMillimetres => d.millimetreScale
        | _ => m.unitScale := by
  cases c with
  | rapidMove | coordinatedMove => exact (takeMoveWords_keeps m _).1
  | rebase => exact (takeOriginWords_keeps m _).1
  | setTemperature | setFanSpeed | setTemperatureAndWait =>
    exact congrArg Machine.unitScale (machine_runSetting d _ m t)
  | _ => rfl

theorem get_absolute_run (axis : Axis) :
    (c.run d m t).machine.absolute.get axis
      = match c with
        | .absolute => true
        | .relative => false
        | .absoluteExtruder => if axis = d.extruder then true else m.absolute.get axis
        | .relativeExtruder => if axis = d.extruder then false else m.absolute.get axis
        | _ => m.absolute.get axis := by
  cases c with
  | rapidMove | coordinatedMove =>
    exact congrArg (PerAxis.get · axis) (takeMoveWords_keeps m _).2.1
  | absolute | relative => exact PerAxis.get_fill _ axis
  | rebase => exact congrArg (PerAxis.get · axis) (takeOriginWords_keeps m _).2.1
  | absoluteExtruder | relativeExtruder => exact Machine.get_absolute_setAbsolute m d.extruder axis _
  | setTemperature | setFanSpeed | setTemperatureAndWait =>
    exact congrArg (fun m => m.absolute.get axis) (machine_runSetting d _ m t)
  | _ => rfl

/-- Only a `G28` and a `G92` are about origins. -/
theorem origin_run (hh : c ≠ .home) (hr : c ≠ .rebase) :
    (c.run d m t).machine.origin = m.origin := by
  cases c with
  | home => exact absurd rfl hh
  | rebase => exact absurd rfl hr
  | rapidMove | coordinatedMove => exact (takeMoveWords_keeps m _).2.2
  | setTemperature | setFanSpeed | setTemperatureAndWait =>
    exact congrArg Machine.origin (machine_runSetting d _ m t)
  | _ => rfl

end Command

/-! ### The last command of a kind -/

namespace Execution

/-- The last command among `cs` that was run. -/
def lastOf (cs : List Command) (h : List Execution) : Option Command :=
  ((h.map command).filter (· ∈ cs)).getLast?

@[simp] theorem lastOf_nil (cs : List Command) : lastOf cs [] = none := rfl

theorem lastOf_concat (cs : List Command) (h : List Execution) (x : Execution) :
    lastOf cs (h ++ [x]) = if x.command ∈ cs then some x.command else lastOf cs h := by
  rw [lastOf, List.map_append, List.filter_append, List.map_singleton, List.filter_singleton]
  by_cases hx : x.command ∈ cs
  · rw [if_pos hx, decide_eq_true hx, cond_true, List.getLast?_concat]
  · rw [if_neg hx, decide_eq_false hx, cond_false, List.append_nil]
    rfl

end Execution

/-! ### The last word about an origin -/

/-- A word that a `G92` took, with the registers at that moment. -/
structure OriginWord where
  word : Word
  machine : Machine

namespace OriginWord

/-- Whether the word is for the axis. -/
def names (axis : Axis) (o : OriginWord) : Bool :=
  Axis.ofLetter? o.word.letter = some axis

/-- The origin that the word gives to the axis: the position of the axis at that moment, less the
value of the word in the unit of that moment. -/
def origin (axis : Axis) (o : OriginWord) : Float :=
  o.machine.position.get axis - o.word.value * o.machine.unitScale

/-- Words taken one by one, each with the registers that the words before it have left. -/
def taken (m : Machine) : List Word → List OriginWord
  | [] => []
  | w :: ws => ⟨w, m⟩ :: taken (Command.takeOriginWords m [w]) ws

/-- One word gives its axis an origin, and no other. -/
theorem get_origin_takeOriginWord (m : Machine) (w : Word) (axis : Axis) :
    (Command.takeOriginWords m [w]).origin.get axis
      = if names axis ⟨w, m⟩ then origin axis ⟨w, m⟩ else m.origin.get axis := by
  rcases named : Axis.ofLetter? w.letter with - | i
  · simp [Command.takeOriginWords, names, named]
  · simp only [Command.takeOriginWords, List.foldl_cons, List.foldl_nil, names, named,
      Machine.get_origin_rebaseAxis]
    by_cases hi : axis = i
    · subst hi
      simp [origin]
    · rw [if_neg hi, if_neg (by simpa using fun h : i = axis => hi h.symm)]

/-- Of several words, the last one for an axis gives it its origin. -/
theorem get_origin_takeOriginWords (m : Machine) (ws : List Word) (axis : Axis) :
    (Command.takeOriginWords m ws).origin.get axis
      = (((taken m ws).filter (names axis)).getLast?.map (origin axis)).getD
          (m.origin.get axis) := by
  induction ws generalizing m with
  | nil => rfl
  | cons w ws ih =>
    have others := ih (Command.takeOriginWords m [w])
    rw [get_origin_takeOriginWord] at others
    rw [taken, List.filter_cons]
    refine Eq.trans others ?_
    by_cases hw : names axis ⟨w, m⟩ = true
    · rw [if_pos hw, if_pos hw, List.getLast?_cons]
      cases ((taken (Command.takeOriginWords m [w]) ws).filter (names axis)).getLast? <;> rfl
    · rw [if_neg hw, if_neg hw]

end OriginWord

namespace Execution

/-- The words that a command took for origins. -/
def originWords (d : Dialect) (x : Execution) : List OriginWord :=
  if x.command = .rebase then OriginWord.taken x.before (Word.span d Command.isAxisWord x.text).1
  else []

/-- The last word that was taken for the origin of the axis since the last `G28`. -/
def lastOrigin (d : Dialect) (axis : Axis) (h : List Execution) : Option OriginWord :=
  (((h.rtakeWhile (·.command ≠ .home)).flatMap (originWords d)).filter
    (OriginWord.names axis)).getLast?

variable (d : Dialect) (axis : Axis) (h : List Execution) (x : Execution)

theorem lastOrigin_concat_home (hx : x.command = .home) : lastOrigin d axis (h ++ [x]) = none := by
  rw [lastOrigin, List.rtakeWhile_concat_neg _ _ _ (by simp [hx])]
  rfl

theorem lastOrigin_concat (hx : x.command ≠ .home) :
    lastOrigin d axis (h ++ [x])
      = ((x.originWords d).filter (OriginWord.names axis)).getLast?.or (lastOrigin d axis h) := by
  rw [lastOrigin, List.rtakeWhile_concat_pos _ _ _ (by simp [hx]), List.flatMap_append,
    List.filter_append, List.getLast?_append, List.flatMap_singleton]
  rfl

end Execution

/-! ### The registers recount the history -/

open Execution

/-- The unit, the modes and the origins are those of the last commands about them. -/
structure Recounts (d : Dialect) (m : Machine) (h : List Execution) : Prop where
  unitScale : m.unitScale = if lastOf [.useInches, .useMillimetres] h = some .useInches
    then d.inchScale else d.millimetreScale
  absolute : ∀ axis, axis ≠ d.extruder →
    (m.absolute.get axis = false ↔ lastOf [.absolute, .relative] h = some .relative)
  extruder : m.absolute.get d.extruder = false ↔
    lastOf [.absolute, .relative, .absoluteExtruder, .relativeExtruder] h
      ∈ [some .relative, some .relativeExtruder]
  origin : ∀ axis, m.origin.get axis
    = ((lastOrigin d axis h).map (OriginWord.origin axis)).getD 0.0

namespace Recounts

variable {d : Dialect} {m : Machine} {h : List Execution}

theorem powerOn (d : Dialect) : Recounts d (.powerOn d) [] where
  unitScale := rfl
  absolute axis _ := by
    rw [Machine.powerOn, PerAxis.get_fill]
    simp
  extruder := by
    rw [Machine.powerOn, PerAxis.get_fill]
    simp
  origin axis := PerAxis.get_fill _ axis

theorem origin_run (hr : Recounts d m h) (c : Command) (t : Text) (axis : Axis) :
    (c.run d m t).machine.origin.get axis
      = ((lastOrigin d axis (h ++ [⟨c, m, t⟩])).map (OriginWord.origin axis)).getD 0.0 := by
  by_cases hh : c = .home
  · subst hh
    rw [lastOrigin_concat_home d axis h _ rfl]
    exact PerAxis.get_fill _ axis
  rw [lastOrigin_concat d axis h _ hh, originWords]
  by_cases hb : c = .rebase
  · subst hb
    have words := OriginWord.get_origin_takeOriginWords m (Word.span d Command.isAxisWord t).1 axis
    rw [hr.origin axis] at words
    refine words.trans ?_
    rw [if_pos rfl]
    cases ((OriginWord.taken m (Word.span d Command.isAxisWord t).1).filter
      (OriginWord.names axis)).getLast? <;> rfl
  · -- no other command is about origins
    rw [Command.origin_run d m t c hh hb, if_neg hb]
    exact hr.origin axis

/-- Every command keeps the registers recounted. -/
theorem run (hr : Recounts d m h) (c : Command) (t : Text) :
    Recounts d (c.run d m t).machine (h ++ [⟨c, m, t⟩]) where
  unitScale := by
    rw [Command.unitScale_run, lastOf_concat]
    cases c with
    | useInches | useMillimetres => rfl
    | _ => exact hr.unitScale
  absolute axis ha := by
    rw [Command.get_absolute_run, lastOf_concat]
    cases c with
    | absolute | relative => simp
    | absoluteExtruder | relativeExtruder => simpa [ha] using hr.absolute axis ha
    | _ => exact hr.absolute axis ha
  extruder := by
    rw [Command.get_absolute_run, lastOf_concat]
    cases c with
    | absolute | relative | absoluteExtruder | relativeExtruder => simp
    | _ => exact hr.extruder
  origin := hr.origin_run c t

theorem of_reachable {σ : Type} {k : Device σ} {s : σ} {x : Moment σ} (hx : Reachable d k s x) :
    Recounts d x.interpreter.machine x.history :=
  hx.invariant (powerOn d) fun c t hr => hr.run c t

end Recounts

/-! ### Moments that can be reached -/

/-- At every moment that can be reached the registers of the unit, of the modes and of the origins
are what the commands that were run say, whatever the extruder and the device are; and all that an
interpreter is used for leads to such moments.

The unit is that of the last `G20` or `G21`.  An axis other than the extruder reads distances just
if the last of `G90` and `G91` was `G91`, so all these axes agree; the extruder does if the last of
`G90`, `G91`, `M82` and `M83` was `G91` or `M83`.  The origin of an axis is zero, unless a `G92` took
a word for the axis since the last `G28`; then it is where the axis stood at the moment of the last
such word, less the value of the word times the unit of that moment.

A word that names no command leaves all registers as they are, and so does a line number, a command
with the letter `M` other than the two about the extruder, and a broken word that is reported; and
what a `G28` leaves in the registers does not depend on what follows it, be it broken or not. -/
theorem reachable_registers {σ : Type} (d : Dialect) (k : Device σ) (s : σ) :
    (∀ calls : List Call, ∃ h, Reachable d k s
        ⟨(Interpreter.start d s).session d k calls, none, calls.flatMap Call.texts, h⟩) ∧
      (∀ x : Moment σ, Reachable d k s x →
        let m := x.interpreter.machine
        (m.unitScale = if lastOf [.useInches, .useMillimetres] x.history = some .useInches
          then d.inchScale else d.millimetreScale) ∧
        (∀ axis, axis ≠ d.extruder → (m.absolute.get axis = false ↔
          lastOf [.absolute, .relative] x.history = some .relative)) ∧
        (∀ axis other, axis ≠ d.extruder → other ≠ d.extruder →
          m.absolute.get axis = m.absolute.get other) ∧
        (m.absolute.get d.extruder = false ↔
          lastOf [.absolute, .relative, .absoluteExtruder, .relativeExtruder] x.history
            ∈ [some .relative, some .relativeExtruder]) ∧
        ∀ axis, m.origin.get axis = match lastOrigin d axis x.history with
          | none => 0.0
          | some o => o.machine.position.get axis - o.word.value * o.machine.unitScale) ∧
      (∀ (i : Interpreter σ) (w : Word), Command.ofWord? w = none →
        (i.step d k w).1.machine = i.machine) ∧
      (∀ (i : Interpreter σ) (w : Word), Interpreter.isLineNumber w = true →
        (i.step d k w).1 = i) ∧
      (∀ (i : Interpreter σ) (w : Word) (c : Command), Command.ofWord? w = some c →
        c.code.1 = 'M' → c ≠ .absoluteExtruder → c ≠ .relativeExtruder →
        (i.step d k w).1.machine = i.machine) ∧
      (∀ (i : Interpreter σ) (e : WordError), (i.report e).machine = i.machine) ∧
      ∀ (m : Machine) (t : Text), (Command.home.run d m t).machine = m.home := by
  refine ⟨reachable_session d k s, fun x hx => ?_, fun i w hc => ?_, fun i w hl => ?_,
    fun i w c hc hl ha hr => ?_, fun _ _ => rfl, fun _ _ => rfl⟩
  · have told := Recounts.of_reachable hx
    refine ⟨told.unitScale, told.absolute, fun axis other ha ho => ?_, told.extruder,
      fun axis => ?_⟩
    · -- both are told by the same command
      rw [Bool.eq_iff_iff, ← Bool.not_eq_false, ← Bool.not_eq_false, told.absolute axis ha,
        told.absolute other ho]
    · rw [told.origin axis]
      cases lastOrigin d axis x.history <;> rfl
  · by_cases hl : Interpreter.isLineNumber w = true
    · rw [Interpreter.step_of_number hc hl]
    · rw [Interpreter.step_of_other hc (Bool.eq_false_iff.2 hl)]
      rfl
  · have letter : w.letter = ['N'] := of_decide_eq_true hl
    have noCommand : ∀ c ∈ Command.all, w.letter ≠ [c.code.1] := by
      rw [letter]
      decide
    rw [Interpreter.step_of_number (Command.ofWord?_eq_none_of_letter noCommand) hl]
  · rw [Interpreter.step_of_command hc]
    exact Command.machine_run_of_letter d i.machine w.rest c hl ha hr

/-- After `G20 G91 M82 G92 X2` the unit is the inch, positions are distances but for the extruder,
and the axis X has its origin two inches below zero; a word `Q5` after that changes nothing. -/
theorem registers_after_rebase :
    let i := (Interpreter.start {} #[]).session {} recorder [.line "G20 G91 M82 G92 X2".toList]
    (∃ h, Reachable {} recorder #[] ⟨i, none, ["G20 G91 M82 G92 X2".toList], h⟩ ∧
      lastOf [.useInches, .useMillimetres] h = some .useInches ∧
      lastOf [.absolute, .relative] h = some .relative ∧
      lastOf [.absolute, .relative, .absoluteExtruder, .relativeExtruder] h
        ∉ [some .relative, some .relativeExtruder] ∧
      ∃ o, lastOrigin {} .x h = some o ∧
        o.machine.position.get .x - o.word.value * o.machine.unitScale = -50.8) ∧
      (i.step {} recorder ⟨['Q'], 5.0, []⟩).1.machine = i.machine := by
  have values : let m := ((Interpreter.start {} #[]).session {} recorder
        [.line "G20 G91 M82 G92 X2".toList]).machine
      m.unitScale ≠ 1.0 ∧ m.absolute.get .x = false ∧ m.absolute.get .e ≠ false ∧
        m.origin.get .x ≠ 0.0 ∧ m.origin.get .x = -50.8 := by decide +kernel
  obtain ⟨inches, distances, positions, moved, origin⟩ := values
  obtain ⟨sessions, moments, others, -⟩ := reachable_registers {} recorder #[]
  intro i
  refine ⟨?_, others i _ (by decide +kernel)⟩
  obtain ⟨h, hr⟩ := sessions [.line "G20 G91 M82 G92 X2".toList]
  obtain ⟨unit, modes, -, extruder, origins⟩ := moments _ hr
  have told := origins .x
  refine ⟨h, hr, ?_, (modes .x (by decide)).1 distances, fun last => ?_, ?_⟩
  · by_contra hne
    rw [if_neg hne] at unit
    exact inches unit
  · exact positions (extruder.2 last)
  · rcases ho : lastOrigin {} .x h with - | o <;> rw [ho] at told
    · exact absurd told moved
    · exact ⟨o, rfl, told.symm.trans origin⟩

end Toolpath
