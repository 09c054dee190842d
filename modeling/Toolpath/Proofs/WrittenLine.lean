/-
Toolpath/Proofs/WrittenLine.lean

Lines as one writes them: a command, its parameters with a blank in front of each, and a comment.
Each kind of line has its contract (`Plays`), the same for all devices.  Only a code of the bed is
not the interpreter's; devices differ in what they are told of it and its setting (`TakesBed`).
-/
import Toolpath.Device.Announcer
import Toolpath.Proofs.Homing
import Toolpath.Proofs.Plays

namespace Toolpath

open Text Numeral WrittenWord

/-- A comment after a blank. -/
theorem lineTail_comment (t : Text) : LineTail (' ' :: ';' :: t) :=
  .mark (b := [' ']) (List.forall_mem_singleton.2 (by decide)) (by decide)

/-- A comment that is the whole line. -/
theorem lineTail_semicolon (t : Text) : LineTail (';' :: t) :=
  .mark (b := []) (List.forall_mem_nil _) (by decide)

/-! ### A setting -/

theorem next?_spaced (letter : Char) (hl : letter.isAlpha = true) (n : NumeralText) {t : Text}
    (ht : Stops isNumeralChar t) :
    Word.next? {} (trimStart ((spaced letter hl n).text ++ t))
      = .ok (some ⟨[letter.toUpper], value n.1, trimStart t⟩) :=
  (next?_trimStart _).trans (next?_text_of_stops (spaced letter hl n) ht)

theorem setting?_spaced (n : NumeralText) {t : Text} (ht : Stops isNumeralChar t) :
    Word.setting? {} (trimStart ((spaced 'S' rfl n).text ++ t))
      = some (value n.1, trimStart t) := by
  rw [Word.setting?_of_word (next?_spaced 'S' rfl n ht)]
  exact if_pos rfl

section

variable {σ : Type} {k : Device σ} {m : Machine}

/-- A command that takes nothing. -/
theorem Plays.of_bare {c : Command} {t : Text} (ht : LineTail t)
    (hr : (c.run {} m (trimStart t)).rest = trimStart t) :
    Plays {} k m (c.text ++ t) (c.run {} m (trimStart t)).machine
      (c.run {} m (trimStart t)).actions := by
  refine .of_command ht.stops rfl ?_
  rw [hr, next?_trimStart]
  exact ht.next?_eq_none

/-- A command with one setting, and what it asks for afterwards. -/
theorem Plays.of_setting {c : Command} {act : Float → Action} {more : List Action}
    (hc : ∀ t, c.run {} m t = { Command.runSetting {} act m t with
      actions := (Command.runSetting {} act m t).actions ++ more })
    (n : NumeralText) {t : Text} (ht : LineTail t) :
    Plays {} k m (c.text ++ ' ' :: 'S' :: (n.1 ++ t)) m (act (value n.1) :: more) := by
  have run : c.run {} m (trimStart ((spaced 'S' rfl n).text ++ t))
      = ⟨m, act (value n.1) :: more, trimStart t⟩ := by
    rw [hc, Command.runSetting, setting?_spaced n ht.stops]
    rfl
  refine Plays.of_command (o := ⟨m, act (value n.1) :: more, trimStart t⟩)
    (stops_text (p := spaced 'S' rfl n) (List.cons_ne_nil _ _) t) run ?_
  exact (next?_trimStart t).trans ht.next?_eq_none

theorem Plays.of_setTemperature (n : NumeralText) {t : Text} (ht : LineTail t) :
    Plays {} k m (Command.setTemperature.text ++ ' ' :: 'S' :: (n.1 ++ t)) m
      [.setTemperature (value n.1)] :=
  of_setting (fun t => by rw [List.append_nil]; rfl) n ht

theorem Plays.of_setFanSpeed (n : NumeralText) {t : Text} (ht : LineTail t) :
    Plays {} k m (Command.setFanSpeed.text ++ ' ' :: 'S' :: (n.1 ++ t)) m
      [.setFanSpeed (value n.1)] :=
  of_setting (fun t => by rw [List.append_nil]; rfl) n ht

theorem Plays.of_setTemperatureAndWait (n : NumeralText) {t : Text} (ht : LineTail t) :
    Plays {} k m (Command.setTemperatureAndWait.text ++ ' ' :: 'S' :: (n.1 ++ t)) m
      [.setTemperature (value n.1), .waitTemperature] :=
  of_setting (fun _ => rfl) n ht

end

/-! ### The words of a move -/

namespace Command

/-- A word for an axis moves it. -/
theorem takeMoveWords_cons_axis (m : Machine) (i : Axis) (v : Float) (t : Text)
    (ws : List Word) :
    takeMoveWords m (⟨[i.letter], v, t⟩ :: ws)
      = takeMoveWords (m.moveAxis i (v * m.unitScale)) ws := by
  have notFeed : [i.letter] ≠ ['F'] := by
    cases i <;> decide
  rw [takeMoveWords]
  simp only [if_neg notFeed, Axis.ofLetter?_letter]

/-- The feed rate is set where it changes. -/
theorem takeMoveWords_cons_feed (m : Machine) (v : Float) (t : Text) (ws : List Word) :
    takeMoveWords m (⟨['F'], v, t⟩ :: ws)
      = if v * m.unitScale != m.feedrate then
          ((takeMoveWords { m with feedrate := v * m.unitScale } ws).1,
            .setFeedrate (v * m.unitScale)
              :: (takeMoveWords { m with feedrate := v * m.unitScale } ws).2)
        else takeMoveWords m ws := by
  rw [takeMoveWords, if_pos rfl]

end Command

/-! ### Words for axes -/

/-- Several words with the letters of axes. -/
def axisWords (l : List (Axis × NumeralText)) : List WrittenWord :=
  l.map fun a => axisWord a.1 a.2

theorem wordBefore_axisWord (i : Axis) (n : NumeralText) (t : Text) :
    (axisWord i n).wordBefore t = ⟨[i.letter], value n.1, trimStart t⟩ := by
  show (⟨[i.letter.toUpper], value n.1, trimStart t⟩ : Word) = _
  rw [i.isAlpha_letter.2]

theorem before_ne_nil_of_mem_axisWords {l : List (Axis × NumeralText)} {p : WrittenWord}
    (h : p ∈ axisWords l) : p.before ≠ [] := by
  obtain ⟨a, -, rfl⟩ := List.mem_map.1 h
  exact List.cons_ne_nil _ _

theorem isAxisWord_of_mem_axisWords {l : List (Axis × NumeralText)} {t : Text} :
    ∀ w ∈ wordsBefore t (axisWords l), Command.isAxisWord w = true := by
  refine forall_mem_wordsBefore (fun p hp u => ?_) t
  obtain ⟨a, -, rfl⟩ := List.mem_map.1 hp
  simp [Command.isAxisWord, wordBefore_axisWord, Axis.ofLetter?_letter]

/-- The origins moved so that the axes read as the words say. -/
def Machine.rebaseAll (m : Machine) (l : List (Axis × NumeralText)) : Machine :=
  l.foldl (fun m a => m.rebaseAxis a.1 (value a.2.1 * m.unitScale)) m

theorem takeOriginWords_axisWords (m : Machine) (l : List (Axis × NumeralText)) (t : Text) :
    Command.takeOriginWords m (wordsBefore t (axisWords l)) = m.rebaseAll l := by
  induction l generalizing m with
  | nil => rfl
  | cons a l ih =>
      show Command.takeOriginWords m ((axisWord a.1 a.2).wordBefore _
        :: wordsBefore t (axisWords l)) = _
      rw [wordBefore_axisWord, Command.takeOriginWords, List.foldl_cons]
      simp only [Axis.ofLetter?_letter]
      exact ih _

/-- They are items that name the axes. -/
theorem texts_map_spaced (l : List (Axis × NumeralText)) :
    AxisItem.texts (l.map fun a => .spaced a.1 a.2) = texts (axisWords l) := by
  rw [AxisItem.texts, texts, axisWords, List.flatMap_map, List.flatMap_map]
  rfl

section

variable {σ : Type} {k : Device σ} {m : Machine}

/-- A line that sends axes home: those that are named, or all. -/
theorem Plays.of_home (l : List (Axis × NumeralText)) {t : Text} (ht : LineTail t) :
    Plays {} k m (Command.home.text ++ (texts (axisWords l) ++ t)) m.home
      [.goHome (if l.map Prod.fst = [] then AxisSet.full
        else AxisSet.ofList (l.map Prod.fst))] := by
  have run := Command.run_home m (l.map fun a => .spaced a.1 a.2) (.tail ht)
  rw [texts_map_spaced, List.map_map] at run
  exact Plays.of_command (stops_texts (fun p => before_ne_nil_of_mem_axisWords) ht.stops) run
    ((next?_trimStart t).trans ht.next?_eq_none)

/-- A line that moves origins. -/
theorem Plays.of_rebase (l : List (Axis × NumeralText)) {t : Text} (ht : LineTail t) :
    Plays {} k m (Command.rebase.text ++ (texts (axisWords l) ++ t)) (m.rebaseAll l) [] := by
  have taken := span_texts (fun p => before_ne_nil_of_mem_axisWords (l := l))
    isAxisWord_of_mem_axisWords (.tail ht)
  have run : Command.rebase.run {} m (trimStart (texts (axisWords l) ++ t))
      = ⟨m.rebaseAll l, [], trimStart t⟩ := by
    rw [Command.run, taken]
    simp only [takeOriginWords_axisWords]
  exact Plays.of_command (stops_texts (fun p => before_ne_nil_of_mem_axisWords) ht.stops) run
    ((next?_trimStart t).trans ht.next?_eq_none)

end

/-! ### The codes of the bed -/

namespace Printer.BedCommand

/-- The number of the code. -/
def number : BedCommand → Text
  | .set => ['1', '4', '0']
  | .setAndWait => ['1', '9', '0']

theorem number_mem_language (b : BedCommand) : b.number ∈ language := by
  cases b
  · exact mem_language_of_split? (t := ['1', '4', '0']) (r := []) (by decide)
  · exact mem_language_of_split? (t := ['1', '9', '0']) (r := []) (by decide)

/-- The code as it is read with the text `t` after it. -/
def word (b : BedCommand) (t : Text) : Word :=
  ⟨['M'], value b.number, t⟩

theorem bedCommand?_word (b : BedCommand) (t : Text) : bedCommand? (b.word t) = some b := by
  have written : ∀ b : BedCommand, 'M' :: Significant.write (value b.number) = 'M' :: b.number := by
    intro b
    cases b <;> decide +kernel
  have text : (b.word t).text = 'M' :: b.number := written b
  rw [bedCommand?, text]
  cases b <;> rfl

/-- It is no command of the interpreter. -/
theorem ofWord?_word (b : BedCommand) (t : Text) : Command.ofWord? (b.word t) = none := by
  have code : ∀ b : BedCommand, ∃ n, integerPart? (value b.number) = some n ∧
      Command.ofCode? 'M' n = none := by
    intro b
    cases b
    · exact ⟨140, by decide +kernel, by decide⟩
    · exact ⟨190, by decide +kernel, by decide⟩
  obtain ⟨n, hn, hc⟩ := code b
  rw [Command.ofWord?, word]
  simp only [hn]
  exact hc

end Printer.BedCommand

open Printer

/-- What a device is told of a code of the bed with its setting, and that it reads the line to its
end or drops nothing of it but the setting. -/
def TakesBed {σ : Type} (k : Device σ) (told : Word → Word → List Action) : Prop :=
  ∀ {m : Machine} {line : Text} {w v : Word}, HandsOver {} line w → Takes {} w v →
    Word.next? {} v.rest = .ok none → Plays {} k m line m (told w v)

/-- A recorder is told both. -/
theorem takesBed_recorder : TakesBed recorder fun w v => [.handOver w, .handOver v] := by
  intro m line w v hw hv he i hi
  subst hi
  rw [Interpreter.read_of_handsOver hw]
  show (i.proceed recorder i.machine [.handOver w]).read {} recorder w.rest = _
  rw [Interpreter.read_of_handsOver (handsOver_of_takes hv)]
  show ((i.proceed recorder i.machine [.handOver w]).proceed recorder i.machine
    [.handOver v]).read {} recorder v.rest = _
  rw [Interpreter.read_of_none he, Interpreter.proceed_proceed]
  rfl

/-- The printer is told the code and reads the setting itself. -/
theorem takesBed_printer : TakesBed (printer {}) fun w _ => [.handOver w] := by
  intro m line w v hw hv he i hi
  subst hi
  rw [Interpreter.read_of_handsOver hw]
  show (i.proceed (printer {}) i.machine [.handOver w]).read {} (printer {})
    (Printer.resume {} w) = _
  rw [resume_of_takes hv, Interpreter.read_of_none he]

/-- A device that only announces is told the code, and drops the setting. -/
theorem takesBed_announcer : TakesBed announcer fun w _ => [.handOver w] := by
  intro m line w v hw _ _ i hi
  subst hi
  rw [Interpreter.read_of_handsOver hw]
  rfl

/-- What a device is told of a code of the bed with the number `n`, the text `t` after it. -/
def bedLog (told : Word → Word → List Action) (b : BedCommand) (n t : Text) : List Action :=
  told (b.word (trimStart (' ' :: 'S' :: (n ++ t)))) ⟨['S'], value n, trimStart t⟩

/-- The setting after a code of the bed is taken by it. -/
theorem takes_bedWord (b : BedCommand) (n : NumeralText) {t : Text} (ht : LineTail t) :
    Takes {} (b.word (trimStart (' ' :: 'S' :: (n.1 ++ t)))) ⟨['S'], value n.1, trimStart t⟩ := by
  have code : bedCommand? (b.word (trimStart (' ' :: 'S' :: (n.1 ++ t)))) ≠ none := by
    rw [b.bedCommand?_word]
    exact Option.some_ne_none b
  exact ⟨code, next?_spaced 'S' rfl n ht.stops, rfl⟩

/-- The printer takes it as the temperature of the bed. -/
theorem takeWord_bedWord (n : NumeralText) {t : Text} (ht : LineTail t) (p : Printer) :
    takeWord {} (BedCommand.set.word (trimStart (' ' :: 'S' :: (n.1 ++ t)))) p
      = { p with bedTarget := value n.1 } := by
  have setting : Word.setting? {} (trimStart (' ' :: 'S' :: (n.1 ++ t)))
      = some (value n.1, trimStart t) := setting?_spaced n ht.stops
  rw [takeWord, BedCommand.bedCommand?_word]
  simp only [setBed, BedCommand.word, setting]

/-- A line with a code of the bed and its setting. -/
theorem Plays.of_bed {σ : Type} {k : Device σ} {told : Word → Word → List Action}
    (hk : TakesBed k told) (b : BedCommand) {m : Machine} (n : NumeralText) {t : Text}
    (ht : LineTail t) :
    Plays {} k m ('M' :: b.number ++ ' ' :: 'S' :: (n.1 ++ t)) m (bedLog told b n.1 t) := by
  have next : Word.next? {} ('M' :: b.number ++ ' ' :: 'S' :: (n.1 ++ t))
      = .ok (some (b.word (trimStart (' ' :: 'S' :: (n.1 ++ t))))) :=
    next?_text_of_stops (bare 'M' b.number rfl b.number_mem_language)
      (stops_text (p := spaced 'S' rfl n) (List.cons_ne_nil _ _) t)
  exact hk ⟨next, b.ofWord?_word _, rfl⟩ (takes_bedWord b n ht)
    ((next?_trimStart t).trans ht.next?_eq_none)

end Toolpath
