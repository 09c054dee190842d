/-
Toolpath/Command.lean

The commands of a program.  A letter and an integer name a command; the command then
takes its parameter words from the front of the text after it and leaves the rest of the
line for the next one.  What a command does depends on the registers and on that text
alone: `Command.run` gives the registers it leaves, the actions it asks for, in order,
and the text it leaves, an end of the text it was given (`rest_suffix`).
-/
import Toolpath.Action
import Toolpath.Machine.Basic
import Toolpath.Word.Reader

namespace Toolpath

/-- The commands. -/
inductive Command
  | rapidMove
  | coordinatedMove
  | useInches
  | useMillimetres
  | home
  | absolute
  | relative
  | rebase
  | absoluteExtruder
  | relativeExtruder
  | disableMotors
  | setTemperature
  | setFanSpeed
  | fanOff
  | setTemperatureAndWait
  | waitTemperature
  deriving DecidableEq, Repr

namespace Command

/-! ### Names of commands -/

/-- The letter and the number that name a command. -/
def code : Command → Char × Int
  | .rapidMove => ('G', 0)
  | .coordinatedMove => ('G', 1)
  | .useInches => ('G', 20)
  | .useMillimetres => ('G', 21)
  | .home => ('G', 28)
  | .absolute => ('G', 90)
  | .relative => ('G', 91)
  | .rebase => ('G', 92)
  | .absoluteExtruder => ('M', 82)
  | .relativeExtruder => ('M', 83)
  | .disableMotors => ('M', 84)
  | .setTemperature => ('M', 104)
  | .setFanSpeed => ('M', 106)
  | .fanOff => ('M', 107)
  | .setTemperatureAndWait => ('M', 109)
  | .waitTemperature => ('M', 116)

/-- All commands. -/
def all : List Command :=
  [.rapidMove, .coordinatedMove, .useInches, .useMillimetres, .home, .absolute, .relative,
   .rebase, .absoluteExtruder, .relativeExtruder, .disableMotors, .setTemperature,
   .setFanSpeed, .fanOff, .setTemperatureAndWait, .waitTemperature]

/-- The command that a letter and a number name. -/
def ofCode? (letter : Char) (number : Int) : Option Command :=
  all.find? fun c => c.code == (letter, number)

/-- The command that a word names by the integer part of its number. -/
def ofWord? (w : Word) : Option Command :=
  match w.letter, integerPart? w.value with
  | [letter], some number => ofCode? letter number
  | _, _ => none

theorem ofCode?_code (c : Command) : ofCode? c.code.1 c.code.2 = some c := by
  cases c <;> decide

/-- Each command has one name, and each name at most one command. -/
theorem ofCode?_eq_some_iff {letter : Char} {number : Int} {c : Command} :
    ofCode? letter number = some c ↔ c.code = (letter, number) := by
  constructor
  · intro h
    simpa using List.find?_some h
  · intro h
    have hc := ofCode?_code c
    rwa [h] at hc

/-! ### Moving -/

/-- Whether a word is a parameter of a move. -/
def isMoveWord (w : Word) : Bool :=
  w.letter = ['F'] || (Axis.ofLetter? w.letter).isSome

/-- Whether a word names an axis. -/
def isAxisWord (w : Word) : Bool :=
  (Axis.ofLetter? w.letter).isSome

/-- The parameters of a move taken in order: the registers they leave, and the changes
of the feed rate among them.  A feed rate equal to the one in force is no change. -/
def takeMoveWords (m : Machine) : List Word → Machine × List Action
  | [] => (m, [])
  | w :: ws =>
    let v := w.value * m.unitScale
    if w.letter = ['F'] then
      -- numbers are compared here: the two zeros are equal, and an undefined one is always new
      if v != m.feedrate then
        let more := takeMoveWords { m with feedrate := v } ws
        (more.1, .setFeedrate v :: more.2)
      else
        takeMoveWords m ws
    else
      match Axis.ofLetter? w.letter with
      | some i => takeMoveWords (m.moveAxis i v) ws
      | none => takeMoveWords m ws

/-- The first parameter is taken first, and the others with the registers it leaves. -/
theorem takeMoveWords_cons (m : Machine) (w : Word) (ws : List Word) :
    takeMoveWords m (w :: ws)
      = ((takeMoveWords (takeMoveWords m [w]).1 ws).1,
          (takeMoveWords m [w]).2 ++ (takeMoveWords (takeMoveWords m [w]).1 ws).2) := by
  simp only [takeMoveWords]
  split
  · split <;> rfl
  · split <;> rfl

/-- The parameters of a change of origin taken in order. -/
def takeOriginWords (m : Machine) (ws : List Word) : Machine :=
  ws.foldl (fun m w =>
    match Axis.ofLetter? w.letter with
    | some i => m.rebaseAxis i (w.value * m.unitScale)
    | none => m) m

/-! ### Running a command -/

/-- What a command leads to. -/
structure Outcome where
  /-- The registers it leaves. -/
  machine : Machine
  /-- The actions it asks for, in order. -/
  actions : List Action
  /-- The text it leaves to be read. -/
  rest : Text

/-- A move: all its parameters are read, and if an axis is among them the machine is sent
to the position they lead to, in one action. -/
def runMove (d : Dialect) (send : PerAxis Float → Action) (m : Machine) (t : Text) : Outcome :=
  let taken := Word.span d isMoveWord t
  let done := takeMoveWords m taken.1
  let moves := if taken.1.any isAxisWord then [send done.1.position] else []
  ⟨done.1, done.2 ++ moves, taken.2⟩

/-- A command with one setting, which can be left out; then the action is, too. -/
def runSetting (d : Dialect) (act : Float → Action) (m : Machine) (t : Text) : Outcome :=
  match Word.setting? d t with
  | some (v, rest) => ⟨m, [act v], rest⟩
  | none => ⟨m, [], t⟩

/-- A command run on the registers `m`, with `t` the text after it. -/
def run (d : Dialect) (m : Machine) (t : Text) : Command → Outcome
  | .rapidMove => runMove d .rapidMove m t
  | .coordinatedMove => runMove d .coordinatedMove m t
  | .useInches => ⟨{ m with unitScale := d.inchScale }, [], t⟩
  | .useMillimetres => ⟨{ m with unitScale := d.millimetreScale }, [], t⟩
  | .home =>
    -- all registers return to zero, whichever axes are named
    let named := Word.axisNames d t
    let axes := if named.1 = [] then AxisSet.full else AxisSet.ofList named.1
    ⟨m.home, [.goHome axes], named.2⟩
  | .absolute => ⟨m.setAllAbsolute true, [], t⟩
  | .relative => ⟨m.setAllAbsolute false, [], t⟩
  | .rebase =>
    let taken := Word.span d isAxisWord t
    ⟨takeOriginWords m taken.1, [], taken.2⟩
  | .absoluteExtruder => ⟨m.setAbsolute d.extruder true, [], t⟩
  | .relativeExtruder => ⟨m.setAbsolute d.extruder false, [], t⟩
  | .disableMotors => ⟨m, [.disableMotors], t⟩
  | .setTemperature => runSetting d .setTemperature m t
  | .setFanSpeed => runSetting d .setFanSpeed m t
  | .fanOff => ⟨m, [.setFanSpeed 0.0], t⟩
  | .setTemperatureAndWait =>
    let set := runSetting d .setTemperature m t
    { set with actions := set.actions ++ [.waitTemperature] }
  | .waitTemperature => ⟨m, [.waitTemperature], t⟩

theorem runSetting_rest_suffix (d : Dialect) (act : Float → Action) (m : Machine) (t : Text) :
    (runSetting d act m t).rest <:+ t := by
  rw [runSetting]
  split
  · next h => exact Word.setting?_suffix h
  · exact List.suffix_refl t

/-- A command leaves an end of the text it was given. -/
theorem rest_suffix (d : Dialect) (m : Machine) (t : Text) (c : Command) :
    (c.run d m t).rest <:+ t := by
  cases c with
  | rapidMove => exact Word.span_suffix d isMoveWord t
  | coordinatedMove => exact Word.span_suffix d isMoveWord t
  | home => exact Word.axisNames_suffix d t
  | rebase => exact Word.span_suffix d isAxisWord t
  | setTemperature => exact runSetting_rest_suffix d _ m t
  | setFanSpeed => exact runSetting_rest_suffix d _ m t
  | setTemperatureAndWait => exact runSetting_rest_suffix d _ m t
  | _ => exact List.suffix_refl t

end Command

end Toolpath
