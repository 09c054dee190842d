/-
Toolpath/Proofs/Pass.lean

A line read in one pass.  Commands look ahead for their parameters, each in a loop of its
own, and give back the text that they do not use.  Here the words of a line go by once, from
left to right, and at each word it is known which command is open:

* a word that the open command takes is its parameter;
* any other word closes the open command, which may have an action left to ask for, and is
  then dealt with as if nothing had been open.

One thing is not a word and is taken all the same.  A homing command takes the bare letter of
an axis, where `Word.readAll` stops, and the pass goes on after it.

The main result is that a line leads to the same registers, the same actions and the same
diagnostics both ways (`readLine_recorder_eq_ofLine`).  It rests on one lemma for each loop
that looks ahead (`onText_move`, `onText_rebase`, `onText_home`, `onText_setting`), and each
of these on the lemma that a command may as well be closed before something it does not take
(`onText_eq_of_stop`).
-/
import Toolpath.Device.Recorder
import Toolpath.Interpreter

namespace Toolpath

/-! ### The command that is open -/

/-- What the number of a setting is for. -/
inductive Setting
  | temperature
  | fanSpeed
  deriving DecidableEq, Repr

/-- The action that a setting asks for. -/
def Setting.action : Setting → Float → Action
  | .temperature => .setTemperature
  | .fanSpeed => .setFanSpeed

/-- The command that can take the next word, and what it has left to ask for. -/
inductive OpenCommand
  /-- No command is open. -/
  | idle
  /-- A move, and whether an axis was among its words. -/
  | move (rapid moved : Bool)
  /-- A change of origins. -/
  | rebase
  /-- A return to zero, and the axes that were named. -/
  | home (named : AxisSet)
  /-- A setting: whether its number was given, and whether the machine waits for it. -/
  | setting (s : Setting) (given waits : Bool)
  deriving DecidableEq, Repr

/-- The registers in the middle of a line, the actions so far, and the command that is
open. -/
structure Pass where
  machine : Machine
  actions : List Action
  command : OpenCommand
  deriving DecidableEq

namespace Pass

/-! ### One word -/

/-- The pass with one action more. -/
def ask (p : Pass) (a : Action) : Pass :=
  { p with actions := p.actions ++ [a] }

/-- The pass after the word, if the open command takes it. -/
def take? (p : Pass) (w : Word) : Option Pass :=
  let v := w.value * p.machine.unitScale
  match p.command with
  | .idle => none
  | .move rapid _ =>
    if w.letter = ['F'] then
      -- a feed rate that is in force already asks for nothing
      if v != p.machine.feedrate then
        some ({ p with machine := { p.machine with feedrate := v } }.ask (.setFeedrate v))
      else
        some p
    else
      (Axis.ofLetter? w.letter).map fun i =>
        { p with machine := p.machine.moveAxis i v, command := .move rapid true }
  | .rebase =>
    (Axis.ofLetter? w.letter).map fun i => { p with machine := p.machine.rebaseAxis i v }
  | .home named =>
    (Axis.ofLetter? w.letter).map fun i => { p with command := .home (named.insert i) }
  | .setting s given waits =>
    if w.letter = ['S'] ∧ given = false then
      some ({ p with command := .setting s true waits }.ask (s.action w.value))
    else
      none

/-- The pass after a bare letter, if the open command takes that. -/
def takeBare? (p : Pass) (letter : Text) : Option Pass :=
  match p.command with
  | .home named =>
    (Axis.ofLetter? letter).map fun i => { p with command := .home (named.insert i) }
  | _ => none

/-- The axes to be homed where some axes were named: all, if none was. -/
def homedAxes (named : AxisSet) : AxisSet :=
  if named = AxisSet.empty then AxisSet.full else named

/-- What the open command has left to ask for. -/
def pending (p : Pass) : List Action :=
  match p.command with
  | .move true true => [.rapidMove p.machine.position]
  | .move false true => [.coordinatedMove p.machine.position]
  | .home named => [.goHome (homedAxes named)]
  | .setting _ _ true => [.waitTemperature]
  | _ => []

/-- The open command closed. -/
def close (p : Pass) : Pass :=
  ⟨p.machine, p.actions ++ p.pending, .idle⟩

/-- A command opened: what it does at once is done, and it stays open if it may take
words. -/
def enter (d : Dialect) (p : Pass) : Command → Pass
  | .rapidMove => { p with command := .move true false }
  | .coordinatedMove => { p with command := .move false false }
  | .useInches => { p with machine := { p.machine with unitScale := d.inchScale } }
  | .useMillimetres => { p with machine := { p.machine with unitScale := d.millimetreScale } }
  | .home => { p with machine := p.machine.home, command := .home AxisSet.empty }
  | .absolute => { p with machine := p.machine.setAllAbsolute true }
  | .relative => { p with machine := p.machine.setAllAbsolute false }
  | .rebase => { p with command := .rebase }
  | .absoluteExtruder => { p with machine := p.machine.setAbsolute d.extruder true }
  | .relativeExtruder => { p with machine := p.machine.setAbsolute d.extruder false }
  | .disableMotors => p.ask .disableMotors
  | .setTemperature => { p with command := .setting .temperature false false }
  | .setFanSpeed => { p with command := .setting .fanSpeed false false }
  | .fanOff => p.ask (.setFanSpeed 0.0)
  | .setTemperatureAndWait => { p with command := .setting .temperature false true }
  | .waitTemperature => p.ask .waitTemperature

/-- A word dealt with while no command is open. -/
def onTopWord (d : Dialect) (p : Pass) (w : Word) : Pass :=
  match Command.ofWord? w with
  | some c => p.enter d c
  | none => if Interpreter.isLineNumber w then p else p.ask (.handOver w)

/-- A word dealt with. -/
def onWord (d : Dialect) (p : Pass) (w : Word) : Pass :=
  match p.take? w with
  | some q => q
  | none => p.close.onTopWord d w

/-! ### The words of a line -/

/-- Several words dealt with, one after the other. -/
def onWords (d : Dialect) (p : Pass) (ws : List Word) : Pass :=
  ws.foldl (onWord d) p

/-- The words of a text dealt with up to its end or to a broken word, and that word.  The
pass goes on after a broken word that is the bare letter of an axis to be homed. -/
def onText (d : Dialect) (p : Pass) (t : Text) : Pass × Option WordError :=
  let q := p.onWords d (Word.readAll d t).1
  match _h : (Word.readAll d t).2 with
  | none => (q.close, none)
  | some e =>
    match q.takeBare? e.letter with
    | some q => onText d q e.rest
    | none => (q.close, some e)
termination_by t.length
decreasing_by exact Word.length_rest_of_readAll ‹_›

/-- The pass before a line. -/
def start (m : Machine) : Pass :=
  ⟨m, [], .idle⟩

/-- A whole line, with the machine as it stands. -/
def ofLine (d : Dialect) (m : Machine) (line : Text) : Pass × Option WordError :=
  onText d (start m) line

/-! ### One word at a time -/

theorem onText_of_none {d : Dialect} {p : Pass} {t : Text} (h : Word.next? d t = .ok none) :
    onText d p t = (p.close, none) := by
  rw [onText]
  split
  · rw [Word.readAll_of_none h]
    rfl
  · next e he =>
      rw [Word.readAll_of_none h] at he
      cases he

theorem onText_of_error {d : Dialect} {p : Pass} {t : Text} {e : WordError}
    (h : Word.next? d t = .error e) :
    onText d p t = match p.takeBare? e.letter with
      | some q => onText d q e.rest
      | none => (p.close, some e) := by
  rw [onText]
  split
  · next he =>
      rw [Word.readAll_of_error h] at he
      cases he
  · next e' he =>
      rw [Word.readAll_of_error h] at he
      obtain rfl : e = e' := Option.some.inj he
      rw [Word.readAll_of_error h]
      rfl

theorem onText_of_word {d : Dialect} {p : Pass} {t : Text} {w : Word}
    (h : Word.next? d t = .ok (some w)) :
    onText d p t = onText d (p.onWord d w) w.rest := by
  rw [onText, onText, Word.readAll_of_word h]
  rfl

/-! ### Closing a command -/

@[simp] theorem take?_idle (m : Machine) (as : List Action) (w : Word) :
    take? ⟨m, as, .idle⟩ w = none := rfl

@[simp] theorem close_idle (m : Machine) (as : List Action) :
    close ⟨m, as, .idle⟩ = ⟨m, as, .idle⟩ := by
  simp [close, pending]

theorem close_close (p : Pass) : p.close.close = p.close :=
  close_idle _ _

/-- Where the open command takes nothing, it may be closed at once. -/
theorem onText_eq_of_stop {d : Dialect} {p : Pass} {t : Text}
    (hw : ∀ w, Word.next? d t = .ok (some w) → p.take? w = none)
    (he : ∀ e, Word.next? d t = .error e → p.takeBare? e.letter = none) :
    onText d p t = onText d p.close t := by
  rcases hn : Word.next? d t with e | - | w
  · -- a broken word
    rw [onText_of_error hn, onText_of_error hn, he e hn, close_close]
    rfl
  · -- the end of the line
    rw [onText_of_none hn, onText_of_none hn, close_close]
  · -- a word of the next command
    have closed : p.close.take? w = none := take?_idle _ _ w
    rw [onText_of_word hn, onText_of_word hn, onWord, onWord, hw w hn, closed, close_close]

/-! ### The loops that look ahead -/

/-- A change of origins takes the words that its loop takes. -/
theorem onText_rebase (d : Dialect) (m : Machine) (as : List Action) (t : Text) :
    onText d ⟨m, as, .rebase⟩ t
      = onText d ⟨Command.takeOriginWords m (Word.span d Command.isAxisWord t).1, as, .idle⟩
          (Word.span d Command.isAxisWord t).2 := by
  by_cases h : ∃ w i, Word.next? d t = .ok (some w) ∧ Axis.ofLetter? w.letter = some i
  · -- a word for an axis is taken
    obtain ⟨w, i, hn, hi⟩ := h
    have hlt := Word.length_rest_of_next? hn
    rw [Word.span_of_word hn (by simp [Command.isAxisWord, hi]), onText_of_word hn]
    have taken : onWord d ⟨m, as, .rebase⟩ w
        = ⟨m.rebaseAxis i (w.value * m.unitScale), as, .rebase⟩ := by
      simp [onWord, take?, hi]
    rw [taken, onText_rebase d _ as w.rest]
    simp [Command.takeOriginWords, hi]
  · -- anything else is not
    have stop : ∀ w, Word.next? d t = .ok (some w) → Axis.ofLetter? w.letter = none := by
      intro w hn
      apply Option.eq_none_iff_forall_ne_some.2
      intro i hi
      exact h ⟨w, i, hn, hi⟩
    rw [Word.span_of_stop fun w hn => by simp [Command.isAxisWord, stop w hn],
      onText_eq_of_stop (fun w hn => by simp [take?, stop w hn]) fun e hn => rfl]
    simp [close, pending, Command.takeOriginWords]
termination_by t.length
decreasing_by exact hlt

/-- The action that ends a move. -/
def moveAction (rapid : Bool) : PerAxis Float → Action :=
  if rapid then .rapidMove else .coordinatedMove

/-- An open move takes a word for the feed rate or for an axis. -/
theorem onWord_move (d : Dialect) (m : Machine) (as : List Action) (rapid moved : Bool) {w : Word}
    (h : Command.isMoveWord w = true) :
    onWord d ⟨m, as, .move rapid moved⟩ w
      = ⟨(Command.takeMoveWords m [w]).1, as ++ (Command.takeMoveWords m [w]).2,
          .move rapid (moved || Command.isAxisWord w)⟩ := by
  by_cases hf : w.letter = ['F']
  · -- a feed rate, new or in force already
    have noAxis : Axis.ofLetter? ['F'] = none := by decide
    by_cases hv : (w.value * m.unitScale != m.feedrate) = true <;>
      simp [onWord, take?, ask, Command.takeMoveWords, Command.isAxisWord, hf, hv, noAxis]
  · -- an axis
    obtain ⟨i, hi⟩ : ∃ i, Axis.ofLetter? w.letter = some i := by
      simpa [Command.isMoveWord, hf, Option.isSome_iff_exists] using h
    simp [onWord, take?, Command.takeMoveWords, Command.isAxisWord, hf, hi]

/-- A move takes the words that its loop takes, and then asks for its action. -/
theorem onText_move (d : Dialect) (m : Machine) (as : List Action) (rapid moved : Bool)
    (t : Text) :
    onText d ⟨m, as, .move rapid moved⟩ t
      = onText d
          ⟨(Command.takeMoveWords m (Word.span d Command.isMoveWord t).1).1,
            as ++ (Command.takeMoveWords m (Word.span d Command.isMoveWord t).1).2
              ++ (if moved || (Word.span d Command.isMoveWord t).1.any Command.isAxisWord then
                  [moveAction rapid
                    (Command.takeMoveWords m (Word.span d Command.isMoveWord t).1).1.position]
                else
                  []),
            .idle⟩
          (Word.span d Command.isMoveWord t).2 := by
  by_cases h : ∃ w, Word.next? d t = .ok (some w) ∧ Command.isMoveWord w = true
  · -- one word is taken, and more after it
    obtain ⟨w, hn, hm⟩ := h
    have hlt := Word.length_rest_of_next? hn
    rw [Word.span_of_word hn hm, onText_of_word hn, onWord_move d m as rapid moved hm,
      onText_move d _ _ rapid _ w.rest]
    have done := Command.takeMoveWords_cons m w (Word.span d Command.isMoveWord w.rest).1
    simp only [done, List.any_cons, List.append_assoc, Bool.or_assoc]
  · -- nothing is taken
    have stop : ∀ w, Word.next? d t = .ok (some w) → Command.isMoveWord w = false := by
      intro w hn
      apply Bool.eq_false_iff.2
      intro hm
      exact h ⟨w, hn, hm⟩
    rw [Word.span_of_stop stop, onText_eq_of_stop ?_ fun e hn => rfl]
    · cases rapid <;> cases moved <;>
        simp [close, pending, moveAction, Command.takeMoveWords]
    · intro w hn
      have hs := stop w hn
      simp only [Command.isMoveWord, Bool.or_eq_false_iff, decide_eq_false_iff_not,
        Option.isSome_eq_false_iff, Option.isNone_iff_eq_none] at hs
      simp [take?, hs.1, hs.2]
termination_by t.length
decreasing_by exact hlt

/-- A return to zero takes the axes that its loop takes, bare letters among them. -/
theorem onText_home (d : Dialect) (m : Machine) (as : List Action) (named : AxisSet) (t : Text) :
    onText d ⟨m, as, .home named⟩ t
      = onText d
          ⟨m, as ++ [.goHome (homedAxes ((Word.axisNames d t).1.foldl AxisSet.insert named))],
            .idle⟩
          (Word.axisNames d t).2 := by
  by_cases hw : ∃ w i, Word.next? d t = .ok (some w) ∧ Axis.ofLetter? w.letter = some i
  · -- a word for an axis
    obtain ⟨w, i, hn, hi⟩ := hw
    have hlt := Word.length_rest_of_next? hn
    have taken : onWord d ⟨m, as, .home named⟩ w = ⟨m, as, .home (named.insert i)⟩ := by
      simp [onWord, take?, hi]
    rw [Word.axisNames_of_word hn hi, onText_of_word hn, taken]
    exact onText_home d m as _ w.rest
  by_cases he : ∃ e i, Word.next? d t = .error e ∧ Axis.ofLetter? e.letter = some i
  · -- the bare letter of an axis
    obtain ⟨e, i, hn, hi⟩ := he
    have hlt := Word.length_rest_of_next?_error hn
    have taken : takeBare? ⟨m, as, .home named⟩ e.letter
        = some ⟨m, as, .home (named.insert i)⟩ := by
      simp [takeBare?, hi]
    rw [Word.axisNames_of_error hn hi, onText_of_error hn, taken]
    exact onText_home d m as _ e.rest
  · -- neither
    have stopWord : ∀ w, Word.next? d t = .ok (some w) → Axis.ofLetter? w.letter = none := by
      intro w hn
      apply Option.eq_none_iff_forall_ne_some.2
      intro i hi
      exact hw ⟨w, i, hn, hi⟩
    have stopBare : ∀ e, Word.next? d t = .error e → Axis.ofLetter? e.letter = none := by
      intro e hn
      apply Option.eq_none_iff_forall_ne_some.2
      intro i hi
      exact he ⟨e, i, hn, hi⟩
    rw [Word.axisNames_of_stop stopWord stopBare, onText_eq_of_stop]
    · simp [close, pending]
    · intro w hn
      simp [take?, stopWord w hn]
    · intro e hn
      simp [takeBare?, stopBare e hn]
termination_by t.length
decreasing_by
  · exact hlt
  · exact hlt

/-- What a setting asks for when it is closed. -/
def waitAction (waits : Bool) : List Action :=
  if waits then [.waitTemperature] else []

/-- A setting that has its number takes nothing more. -/
theorem onText_setting_given (d : Dialect) (m : Machine) (as : List Action) (s : Setting)
    (waits : Bool) (t : Text) :
    onText d ⟨m, as, .setting s true waits⟩ t
      = onText d ⟨m, as ++ waitAction waits, .idle⟩ t := by
  rw [onText_eq_of_stop (fun w hn => by simp [take?]) fun e hn => rfl]
  cases waits <;> rfl

/-- A setting takes the number that its look-ahead finds, if it finds one. -/
theorem onText_setting (d : Dialect) (m : Machine) (as : List Action) (s : Setting)
    (waits : Bool) (t : Text) :
    onText d ⟨m, as, .setting s false waits⟩ t
      = onText d
          ⟨(Command.runSetting d s.action m t).machine,
            as ++ (Command.runSetting d s.action m t).actions ++ waitAction waits, .idle⟩
          (Command.runSetting d s.action m t).rest := by
  by_cases h : ∃ w, Word.next? d t = .ok (some w) ∧ w.letter = ['S']
  · -- the number is taken, and then nothing more
    obtain ⟨w, hn, hs⟩ := h
    have taken : onWord d ⟨m, as, .setting s false waits⟩ w
        = ⟨m, as ++ [s.action w.value], .setting s true waits⟩ := by
      simp [onWord, take?, ask, hs]
    rw [Command.runSetting, Word.setting?_of_word hn, if_pos hs, onText_of_word hn, taken]
    exact onText_setting_given d m _ s waits w.rest
  · -- there is none
    have stop : ∀ w, Word.next? d t = .ok (some w) → w.letter ≠ ['S'] :=
      fun w hn hs => h ⟨w, hn, hs⟩
    rw [Command.runSetting, Word.setting?_of_stop stop,
      onText_eq_of_stop (fun w hn => by simp [take?, stop w hn]) fun e hn => rfl]
    cases waits <;> simp [close, pending, waitAction]

/-! ### A whole command -/

/-- The loops begin with no axis named, and all axes are homed just when none was. -/
theorem homedAxes_foldl_insert (l : List Axis) :
    homedAxes (l.foldl AxisSet.insert AxisSet.empty)
      = if l = [] then AxisSet.full else AxisSet.ofList l := by
  have names : AxisSet.ofList l = AxisSet.empty ↔ l = [] := by
    constructor
    · intro h
      apply List.eq_nil_iff_forall_not_mem.2
      intro i hi
      have hg := AxisSet.get_ofList l i
      rw [h, decide_eq_true hi] at hg
      exact absurd hg (by simp [AxisSet.empty])
    · rintro rfl
      rfl
  by_cases hl : l = []
  · rw [if_pos hl, hl]
    rfl
  · rw [if_neg hl]
    apply if_neg
    intro h
    exact hl (names.1 h)

/-- A command that is opened does, with the words that follow, what running it does, and
leaves the same text. -/
theorem onText_enter (d : Dialect) (m : Machine) (as : List Action) (c : Command) (t : Text) :
    onText d (enter d ⟨m, as, .idle⟩ c) t
      = onText d ⟨(c.run d m t).machine, as ++ (c.run d m t).actions, .idle⟩
          (c.run d m t).rest := by
  cases c with
  | rapidMove =>
    simpa [enter, Command.run, Command.runMove, moveAction] using onText_move d m as true false t
  | coordinatedMove =>
    simpa [enter, Command.run, Command.runMove, moveAction] using onText_move d m as false false t
  | home =>
    show onText d ⟨m.home, as, .home AxisSet.empty⟩ t = _
    rw [onText_home, homedAxes_foldl_insert]
    rfl
  | rebase => simpa [enter, Command.run] using onText_rebase d m as t
  | setTemperature =>
    simpa [enter, Command.run, waitAction, Setting.action]
      using onText_setting d m as .temperature false t
  | setFanSpeed =>
    simpa [enter, Command.run, waitAction, Setting.action]
      using onText_setting d m as .fanSpeed false t
  | setTemperatureAndWait =>
    simpa [enter, Command.run, waitAction, Setting.action]
      using onText_setting d m as .temperature true t
  | useInches | useMillimetres | absolute | relative | absoluteExtruder | relativeExtruder =>
    simp [enter, Command.run]
  | disableMotors | fanOff | waitTemperature => simp [enter, ask, Command.run]

/-! ### The interpreter in step with the pass -/

/-- The interpreter in the middle of a line, which it began as `i`, when the pass has come to
the registers `m` and the actions `as`. -/
def interpreter (i : Interpreter Recording) (m : Machine) (as : List Action) :
    Interpreter Recording :=
  { i with
    machine := m
    device := i.device ++ as
    journal := i.journal ++ as.map Event.action }

/-- The interpreter after the line. -/
def finish (i : Interpreter Recording) (r : Pass × Option WordError) : Interpreter Recording :=
  let j := interpreter i r.1.machine r.1.actions
  match r.2 with
  | none => j
  | some e => j.report e

theorem interpreter_nil (i : Interpreter Recording) : interpreter i i.machine [] = i := by
  simp [interpreter]

theorem settle_interpreter (i : Interpreter Recording) (m : Machine) (as : List Action)
    (o : Command.Outcome) :
    (interpreter i m as).settle recorder o = interpreter i o.machine (as ++ o.actions) := by
  have device : recorder.acceptAll o.actions (i.device ++ as) = i.device ++ (as ++ o.actions) := by
    apply Array.toList_inj.1
    simp [toList_acceptAll_recorder]
  have journal : i.journal ++ as.map Event.action ++ o.actions.map Event.action
      = i.journal ++ (as ++ o.actions).map Event.action := by
    apply Array.toList_inj.1
    simp
  rw [Interpreter.settle_eq]
  simp only [interpreter, device, journal]

theorem emit_interpreter (i : Interpreter Recording) (m : Machine) (as : List Action)
    (a : Action) : (interpreter i m as).emit recorder a = interpreter i m (as ++ [a]) := by
  have push {α : Type} (r : Array α) (l : List α) (x : α) : (r ++ l).push x = r ++ (l ++ [x]) := by
    apply Array.toList_inj.1
    simp
  simp only [Interpreter.emit, interpreter, recorder, push, List.map_append, List.map_cons,
    List.map_nil]

/-- One word that no open command takes: the interpreter goes on with the text the pass goes
on with, and both have come to the same registers and actions. -/
theorem step_interpreter (d : Dialect) (i : Interpreter Recording) (m : Machine)
    (as : List Action) (w : Word) :
    ∃ m' as' rest, (interpreter i m as).step d recorder w = (interpreter i m' as', some rest) ∧
      onText d (onWord d ⟨m, as, .idle⟩ w) w.rest = onText d ⟨m', as', .idle⟩ rest := by
  rcases hc : Command.ofWord? w with - | c
  · by_cases hl : Interpreter.isLineNumber w = true
    · -- the number of the line
      refine ⟨m, as, w.rest, ?_, ?_⟩
      · simp [Interpreter.step, hc, hl]
      · simp [onWord, onTopWord, hc, hl]
    · -- a word that is handed over, after which a recording goes on at once
      refine ⟨m, as ++ [.handOver w], w.rest, ?_, ?_⟩
      · simp only [Interpreter.step, hc, hl, emit_interpreter]
        rfl
      · simp [onWord, onTopWord, hc, hl, ask]
  · -- a command
    refine ⟨(c.run d m w.rest).machine, as ++ (c.run d m w.rest).actions, (c.run d m w.rest).rest,
      ?_, ?_⟩
    · simp only [Interpreter.step, hc, settle_interpreter]
      rfl
    · simp only [onWord, take?_idle, close_idle, onTopWord, hc]
      exact onText_enter d m as c w.rest

/-- The rest of a line, from any point where no command is open. -/
theorem read_interpreter (d : Dialect) (i : Interpreter Recording) (m : Machine)
    (as : List Action) (t : Text) :
    (interpreter i m as).read d recorder t = finish i (onText d ⟨m, as, .idle⟩ t) := by
  rcases hn : Word.next? d t with e | - | w
  · -- a broken word
    rw [Interpreter.read_of_error hn, onText_of_error hn]
    simp [takeBare?, finish]
  · -- the end of the line
    rw [Interpreter.read_of_none hn, onText_of_none hn]
    simp [finish]
  · -- a word, and the rest of the line after it
    obtain ⟨m', as', rest, hs, hp⟩ := step_interpreter d i m as w
    have hlt : rest.length < t.length :=
      Nat.lt_of_le_of_lt (Interpreter.length_of_step (congrArg Prod.snd hs))
        (Word.length_rest_of_next? hn)
    rw [Interpreter.read_of_word hn, onText_of_word hn, hp, hs]
    exact read_interpreter d i m' as' rest
termination_by t.length
decreasing_by exact hlt

end Pass

/-! ### Whole lines -/

/-- A line that is recorded leads to the registers and the actions of one pass over its
words, and to the diagnostic of the broken word that ends the pass, if one does. -/
theorem readLine_recorder_eq_ofLine (d : Dialect) (i : Interpreter Recording) (line : Text) :
    (i.readLine d recorder line).machine = (Pass.ofLine d i.machine line).1.machine ∧
    (i.readLine d recorder line).device.toList
      = i.device.toList ++ (Pass.ofLine d i.machine line).1.actions ∧
    (i.readLine d recorder line).lineCount = i.lineCount + 1 ∧
    (i.readLine d recorder line).diagnostics.toList.map Diagnostic.message
      = i.diagnostics.toList.map Diagnostic.message
        ++ (Pass.ofLine d i.machine line).2.toList.map fun e =>
          "Line ".toList ++ Decimal.digits (i.lineCount + 1) ++ ": ".toList ++ e.message := by
  have read := Pass.read_interpreter d { i with lineCount := i.lineCount + 1 } i.machine [] line
  rw [show Pass.interpreter { i with lineCount := i.lineCount + 1 } i.machine []
      = { i with lineCount := i.lineCount + 1 } from Pass.interpreter_nil _] at read
  rw [Interpreter.readLine, read, Pass.ofLine, Pass.start]
  rcases Pass.onText d ⟨i.machine, [], .idle⟩ line with ⟨p, - | e⟩
  · -- the pass came to the end of the line
    simp [Pass.finish, Pass.interpreter]
  · -- the pass was ended by a broken word
    simp [Pass.finish, Pass.interpreter, Interpreter.report, Diagnostic.message_mk]

/-- A bare axis letter is no word, and a homing command takes it all the same.  The words of
this line end with the command, so they alone home all axes and leave a broken word; the line
homes two axes, and nothing in it is broken. -/
theorem home_takes_bare_letters :
    ((Interpreter.start {} #[]).readLine {} recorder "G28 X Y".toList).device.toList
        = [.goHome (AxisSet.ofList [.x, .y])] ∧
      ((Pass.start (Machine.powerOn {})).onWords {} (Word.readAll {} "G28 X Y".toList).1).close.actions
        = [.goHome AxisSet.full] ∧
      AxisSet.ofList [.x, .y] ≠ AxisSet.full ∧
      ((Interpreter.start {} #[]).readLine {} recorder "G28 X Y".toList).diagnostics = #[] ∧
      (Word.readAll {} "G28 X Y".toList).2 = some (.invalidNumber ['X'] ['Y']) := by
  have first : Word.next? {} "G28 X Y".toList
      = .ok (some ⟨['G'], Numeral.value ['2', '8'], "X Y".toList⟩) := rfl
  have second : Word.next? {} "X Y".toList = .error (.invalidNumber ['X'] ['Y']) := rfl
  have third : Word.next? {} ['Y'] = .error (.missingValue ['Y']) := rfl
  have last : Word.next? {} [] = .ok none := rfl
  have number : integerPart? (Numeral.value ['2', '8']) = some 28 := by decide +kernel
  have home : Command.ofWord? ⟨['G'], Numeral.value ['2', '8'], "X Y".toList⟩ = some .home := by
    rw [Command.ofWord?, number]
    exact Command.ofCode?_code .home
  have words : Word.readAll {} "G28 X Y".toList
      = ([⟨['G'], Numeral.value ['2', '8'], "X Y".toList⟩], some (.invalidNumber ['X'] ['Y'])) := by
    rw [Word.readAll_of_word first, Word.readAll_of_error second]
  have names : Word.axisNames {} "X Y".toList = ([.x, .y], []) := by
    rw [Word.axisNames_of_error (i := .x) second (by decide),
      show (WordError.invalidNumber ['X'] ['Y']).rest = ['Y'] from rfl,
      Word.axisNames_of_error (i := .y) third (by decide),
      show (WordError.missingValue ['Y']).rest = [] from rfl,
      Word.axisNames_of_stop (by simp [last]) (by simp [last])]
  have line : (Interpreter.start {} #[]).readLine {} recorder "G28 X Y".toList
      = Interpreter.settle recorder { Interpreter.start {} #[] with lineCount := 1 }
          ⟨(Machine.powerOn {}).home, [.goHome (AxisSet.ofList [.x, .y])], []⟩ := by
    rw [Interpreter.readLine, Interpreter.read_of_word first]
    simp only [Interpreter.step, home, Command.run, names]
    rw [Interpreter.read_of_none last]
    rfl
  have pass : ((Pass.start (Machine.powerOn {})).onWords {} (Word.readAll {} "G28 X Y".toList).1)
      = ⟨(Machine.powerOn {}).home, [], .home AxisSet.empty⟩ := by
    rw [words]
    simp only [Pass.onWords, List.foldl, Pass.onWord, Pass.start, Pass.take?_idle,
      Pass.close_idle, Pass.onTopWord, home, Pass.enter]
  refine ⟨?_, ?_, by decide, ?_, ?_⟩
  · rw [line]
    rfl
  · rw [pass]
    rfl
  · rw [line]
    rfl
  · rw [words]

end Toolpath
