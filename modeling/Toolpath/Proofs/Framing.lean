/-
Toolpath/Proofs/Framing.lean

What a host puts around a line: a line number in front of it, and behind it a checksum or a comment.
Neither makes a difference to the machine.  The number is dropped as a word, and behind a mark
nothing is read, wherever the line is cut by it: between two words, among the parameters of a
command, after the bare letter of an axis, after a code of the bed, or after a letter whose number
is missing (`readLine_framed`).

What is said about a broken word, and what is kept of a word that is handed over, does contain the
text behind the mark.  So the two runs are not equal but alike, as runs over texts that read alike
are (`Alike.read`).
-/
import Toolpath.Proofs.Alike
import Toolpath.Proofs.Word.Remark
import Toolpath.Proofs.WrittenCommand

namespace Toolpath

open Text Numeral

/-! ### Actions with the remark in their text -/

/-- The word with more text after it. -/
def Word.append (w : Word) (s : Text) : Word :=
  { w with rest := w.rest ++ s }

/-- The action with more text after the word that is handed over. -/
def Action.append (s : Text) : Action → Action
  | .handOver w => .handOver (w.append s)
  | a => a

theorem Action.Alike.eq_append {s : Text} {a a' : Action} (h : Action.Alike (Followed s) a a') :
    a' = a.append s := by
  cases h with
  | @same a ha =>
    cases a with
    | handOver w => cases ha
    | _ => rfl
  | @handOver w w' hw =>
    obtain ⟨letter, value, rest⟩ := w'
    obtain ⟨rfl, rfl, rfl⟩ := hw
    rfl

/-- Lists of actions that go on alike but for the remark. -/
theorem exists_append_of_alikeFrom {base x y : List Action} {s : Text}
    (h : AlikeFrom base (Action.Alike (Followed s)) x y) :
    ∃ calls, x = base ++ calls ∧ y = base ++ calls.map (Action.append s) := by
  obtain ⟨as, as', hx, hy, alike⟩ := h
  have same : List.Forall₂ Eq (as.map (Action.append s)) as' :=
    List.forall₂_map_left_iff.2 (alike.imp fun _ _ ha => ha.eq_append.symm)
  rw [List.forall₂_eq_eq_eq] at same
  exact ⟨as, hx, same ▸ hy⟩

/-! ### Lines in a frame -/

/-- A line as a host sends it: with a line number in front of it, and a remark after it. -/
def framed (number line remark : Text) : Text :=
  'N' :: (number ++ ' ' :: (line ++ remark))

namespace Interpreter

variable {σ : Type}

/-- The line number is dropped. -/
theorem read_framed (k : Device σ) (i : Interpreter σ) {number : Text} (hn : number ∈ language)
    (line remark : Text) :
    i.read {} k (framed number line remark) = i.read {} k (line ++ remark) := by
  have blank : isBlank ' ' = true := by decide
  have word : Word.next? {} (framed number line remark)
      = .ok (some ⟨['N'], value number, trimStart (' ' :: (line ++ remark))⟩) :=
    next?_text_of_stops (.bare 'N' number rfl hn) (stops_of_blank blank (line ++ remark))
  have noCommand : ∀ c ∈ Command.all, ['N'] ≠ [c.code.1] := by decide
  rw [read_of_word word, step_of_number (Command.ofWord?_eq_none_of_letter noCommand) rfl]
  show i.read {} k (trimStart (' ' :: (line ++ remark))) = _
  rw [trimStart_cons_of_blank blank, read_trimStart]

end Interpreter

/-- The line in a frame is read as the line is, by every device that respects the remark. -/
theorem alike_readLine_framed {σ : Type} {k : Device σ} {R : σ → σ → Prop} {number remark : Text}
    (hn : number ∈ language) (hs : Remark remark) (hk : Respects k (Followed remark) R)
    {i : Interpreter σ} (hi : R i.device i.device) (line : Text) :
    Alike (WordError.Followed remark) i.diagnostics.toList R (i.readLine {} k line)
      (i.readLine {} k (framed number line remark)) := by
  -- the remark is what parts the two, the number has been dropped
  have dropped : i.readLine {} k (framed number line remark) = i.readLine {} k (line ++ remark) :=
    Interpreter.read_framed k _ hn line remark
  rw [dropped]
  exact (Alike.refl _ hi).readLine hs.readsAlike hk rfl

/-- A line number in front of a line and a remark after it change nothing about what the line does,
whatever the line, the remark and the interpreter are.  The registers, the count of the lines and
the number of the diagnostics are the same.  A recorder is told the same actions, with the remark
at the end of the text of each word that is handed over; the printer comes to the same state; and so
does every device with a use for moves only. -/
theorem readLine_framed {number remark : Text} (hn : number ∈ language) (hr : Remark remark)
    (line : Text) :
    (∀ i : Interpreter Recording,
      let plain := i.readLine {} recorder line
      let sent := i.readLine {} recorder (framed number line remark)
      sent.machine = plain.machine ∧ sent.lineCount = plain.lineCount ∧
        sent.diagnostics.size = plain.diagnostics.size ∧
        ∃ calls, plain.device.toList = i.device.toList ++ calls ∧
          sent.device.toList = i.device.toList ++ calls.map (Action.append remark)) ∧
      (∀ i : Interpreter Printer,
        let plain := i.readLine {} (printer {}) line
        let sent := i.readLine {} (printer {}) (framed number line remark)
        sent.machine = plain.machine ∧ sent.lineCount = plain.lineCount ∧
          sent.diagnostics.size = plain.diagnostics.size ∧ sent.device = plain.device) ∧
      ∀ {σ : Type} (receive : PerAxis Float → σ → σ) (tells : PerAxis Float → List LogEntry)
        (i : Interpreter σ),
        let plain := i.readLine {} (.ofMoves receive tells) line
        let sent := i.readLine {} (.ofMoves receive tells) (framed number line remark)
        sent.machine = plain.machine ∧ sent.lineCount = plain.lineCount ∧
          sent.diagnostics.size = plain.diagnostics.size ∧ sent.device = plain.device := by
  refine ⟨fun i => ?_, fun i => ?_, fun receive tells i => ?_⟩
  · have run := alike_readLine_framed hn hr (respects_recorder _ _) (i := i) (.refl _ _) line
    exact ⟨run.machine, run.lineCount, run.diagnostics.length_eq,
      exists_append_of_alikeFrom run.device⟩
  · have run := alike_readLine_framed hn hr (respects_printer hr.readsAlike) (i := i) rfl line
    exact ⟨run.machine, run.lineCount, run.diagnostics.length_eq, run.device.symm⟩
  · have run := alike_readLine_framed hn hr (respects_ofMoves receive tells _) (i := i) rfl line
    exact ⟨run.machine, run.lineCount, run.diagnostics.length_eq, run.device.symm⟩

/-- What follows the mark is not read, not even where the letter before it has no number: `N7 G28
X*Y1` sends the axis X home, and no other. -/
theorem framed_home_x :
    ['7'] ∈ language ∧ Remark "*Y1".toList ∧
      ((Interpreter.start {} #[]).readLine {} recorder
        (framed ['7'] "G28 X".toList "*Y1".toList)).device.toList
          = [.goHome (AxisSet.ofList [.x])] := by
  have number : ['7'] ∈ language := mem_language_of_split? (t := ['7']) (r := []) (by decide)
  have remark : Remark "*Y1".toList := .mark ['Y', '1'] (by decide)
  have first : Word.next? {} "G28 X".toList
      = .ok (some ⟨['G'], value ['2', '8'], ['X']⟩) := rfl
  have second : Word.next? {} ['X'] = .error (.missingValue ['X']) := rfl
  have home : Command.ofWord? ⟨['G'], value ['2', '8'], ['X']⟩ = some .home := by
    have code : integerPart? (value ['2', '8']) = some 28 := by decide +kernel
    rw [Command.ofWord?, code]
    exact Command.ofCode?_code .home
  have names : Word.axisNames {} ['X'] = ([.x], []) := by
    rw [Word.axisNames_of_error (i := .x) second (by decide),
      show (WordError.missingValue ['X']).rest = [] from rfl,
      Word.axisNames_of_stop (t := []) (by rintro w ⟨⟩) (by rintro e ⟨⟩)]
  have run (m : Machine) : Command.home.run {} m ['X']
      = ⟨m.home, [.goHome (AxisSet.ofList [.x])], []⟩ := by
    show (⟨m.home, [.goHome (if (Word.axisNames {} ['X']).1 = [] then AxisSet.full
      else AxisSet.ofList (Word.axisNames {} ['X']).1)], (Word.axisNames {} ['X']).2⟩
        : Command.Outcome) = _
    rw [names]
    rfl
  have course (m : Machine) := Course.of_run first home (run m) (.stay m.home [])
  have plain : ((Interpreter.start {} #[]).readLine {} recorder "G28 X".toList).device.toList
      = [.goHome (AxisSet.ofList [.x])] := by
    rw [Interpreter.readLine, (course _).read_eq recorder rfl, Interpreter.read_of_none rfl]
    rfl
  obtain ⟨-, -, -, calls, told, sent⟩ :=
    (readLine_framed number remark "G28 X".toList).1 (Interpreter.start {} #[])
  obtain rfl : calls = [.goHome (AxisSet.ofList [.x])] := told.symm.trans plain
  exact ⟨number, remark, sent⟩

end Toolpath
