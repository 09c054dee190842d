/-
Toolpath/Proofs/Sample/Stroke.lean

Strokes: moves that are given with their feed rate, as the sample programs give them.  A line with
one moves the axes in turn and sends the machine there in one action (`Plays.of_move`); a machine in
millimetres with absolute axes and all origins at zero goes where the words say (`Plays.of_stroke`).
Of a course of strokes all moves are recorded, and the feed rates with those dropped that are equal
to the one before (`Stroke.feedrates_logs`).
-/
import Toolpath.Proofs.ActionLog
import Toolpath.Proofs.Double.Identity
import Toolpath.Proofs.FeedRate
import Toolpath.Proofs.WrittenLine

namespace Toolpath

open Text Numeral WrittenWord

/-! ### Strokes -/

/-- A move and the feed rate that is given with it. -/
structure Stroke where
  rapid : Bool
  target : PerAxis Float
  feedrate : Float

namespace Stroke

/-- The command for strokes that are rapid, or not. -/
def command (rapid : Bool) : Command :=
  if rapid then .rapidMove else .coordinatedMove

/-- The move itself. -/
def action (s : Stroke) : Action :=
  if s.rapid then .rapidMove s.target else .coordinatedMove s.target

/-- What is recorded of the stroke while the feed rate `f` is in force. -/
def log (f : Float) (s : Stroke) : List Action :=
  (rateChanges f [s.feedrate]).map Action.setFeedrate ++ [s.action]

theorem target?_action (s : Stroke) : s.action.target? = some s.target := by
  rcases s with ⟨- | -, target, feedrate⟩ <;> rfl

theorem resting?_action (s : Stroke) : s.action.resting? = some s.target := by
  rcases s with ⟨- | -, target, feedrate⟩ <;> rfl

theorem feedrate?_action (s : Stroke) : s.action.feedrate? = none := by
  rcases s with ⟨- | -, target, feedrate⟩ <;> rfl

/-- The feed rate after strokes. -/
def feedAfter (f : Float) (ss : List Stroke) : Float :=
  ss.foldl (fun f s => rateAfter f [s.feedrate]) f

/-- The position after strokes. -/
def positionAfter (p : PerAxis Float) (ss : List Stroke) : PerAxis Float :=
  ss.foldl (fun _ s => s.target) p

/-- What is recorded of strokes. -/
def logs (f : Float) : List Stroke → List Action
  | [] => []
  | s :: ss => s.log f ++ logs (rateAfter f [s.feedrate]) ss

theorem logs_append (f : Float) (ss more : List Stroke) :
    logs f (ss ++ more) = logs f ss ++ logs (feedAfter f ss) more := by
  induction ss generalizing f with
  | nil => rfl
  | cons s ss ih =>
      rw [List.cons_append, logs, logs, ih, List.append_assoc]
      rfl

/-- An action that no feed rate satisfies is looked for among the moves. -/
theorem filter_logs {q : Action → Bool} (hf : ∀ v, q (.setFeedrate v) = false)
    (f : Float) (ss : List Stroke) : (logs f ss).filter q = (ss.map action).filter q := by
  induction ss generalizing f with
  | nil => rfl
  | cons s ss ih =>
      have silent : ((rateChanges f [s.feedrate]).map Action.setFeedrate).filter q = [] := by
        refine List.filter_eq_nil_iff.2 (List.forall_mem_map.2 fun v _ => ?_)
        rw [hf]
        exact Bool.false_ne_true
      rw [logs, log, List.filter_append, List.filter_append, silent, ih, List.nil_append,
        ← List.filter_append]
      rfl

/-- The feed rates that are set are those that change the one in force. -/
theorem feedrates_logs (f : Float) (ss : List Stroke) :
    Action.feedrates (logs f ss) = rateChanges f (ss.map feedrate) := by
  induction ss generalizing f with
  | nil => rfl
  | cons s ss ih =>
      have first : Action.feedrates (s.log f) = rateChanges f [s.feedrate] := by
        rw [Action.feedrates, log, List.filterMap_append, List.filterMap_map,
          List.filterMap_cons_none s.feedrate?_action, List.filterMap_nil, List.append_nil]
        exact List.filterMap_some
      have rates := rateChanges_append f [s.feedrate] (ss.map feedrate)
      rw [List.singleton_append, ← ih, ← first] at rates
      rw [List.map_cons, rates]
      exact List.filterMap_append

/-- If the first feed rate is not in force at the beginning, these are all of them, with one of
equal ones in a row. -/
theorem feedrates_logs_eq_destutter {f : Float} {ss : List Stroke}
    (h : ∀ s ∈ ss.head?, Changes f s.feedrate) :
    Action.feedrates (logs f ss) = (ss.map feedrate).destutter Changes := by
  rw [feedrates_logs]
  cases ss with
  | nil => rfl
  | cons s ss =>
      rw [List.map_cons, rateChanges_cons, if_pos (h s rfl)]
      exact (destutter'_eq s.feedrate _).symm

/-- Where the printer is after strokes. -/
theorem position_acceptAll_logs (d : Dialect) (f : Float) (ss : List Stroke) (p : Printer) :
    ((printer d).acceptAll (logs f ss) p).position = positionAfter p.position ss := by
  induction ss generalizing f p with
  | nil => rfl
  | cons s ss ih =>
      have first : ((printer d).acceptAll (s.log f) p).position = s.target := by
        rcases s with ⟨- | -, target, v⟩ <;> rw [log, rateChanges_singleton] <;> split <;> rfl
      rw [logs, Device.acceptAll_append, ih, first]
      rfl

end Stroke

/-! ### Lines with a stroke -/

/-- The word that gives a feed rate. -/
def feedWord (n : NumeralText) : WrittenWord :=
  spaced 'F' rfl n

/-- The words of a stroke. -/
def strokeWords (l : List (Axis × NumeralText)) (feed : NumeralText) : List WrittenWord :=
  axisWords l ++ [feedWord feed]

theorem texts_strokeWords_nil (feed : NumeralText) :
    texts (strokeWords [] feed) = ' ' :: 'F' :: feed.1 :=
  List.append_nil _

theorem texts_strokeWords_cons (a : Axis × NumeralText) (l : List (Axis × NumeralText))
    (feed : NumeralText) :
    texts (strokeWords (a :: l) feed)
      = ' ' :: a.1.letter :: (a.2.1 ++ texts (strokeWords l feed)) :=
  rfl

/-- The axes moved one after the other, each by its number in the unit in force. -/
def Machine.moveAll (m : Machine) (l : List (Axis × NumeralText)) : Machine :=
  l.foldl (fun m a => m.moveAxis a.1 (value a.2.1 * m.unitScale)) m

/-- The words of a stroke move the axes and set the feed rate where it changes, both in the unit in
force. -/
theorem takeMoveWords_strokeWords (m : Machine) (l : List (Axis × NumeralText))
    (feed : NumeralText) (t : Text) :
    Command.takeMoveWords m (wordsBefore t (strokeWords l feed))
      = ({ m.moveAll l with feedrate := rateAfter m.feedrate [value feed.1 * m.unitScale] },
          (rateChanges m.feedrate [value feed.1 * m.unitScale]).map Action.setFeedrate) := by
  induction l generalizing m with
  | nil =>
      show Command.takeMoveWords m [⟨['F'], value feed.1, trimStart t⟩] = _
      rw [Command.takeMoveWords_cons_feed, rateAfter_singleton, rateChanges_singleton]
      by_cases set : Changes m.feedrate (value feed.1 * m.unitScale)
      · rw [if_pos set, if_pos set]
        exact if_pos set
      · rw [if_neg set, if_neg set]
        exact if_neg set
  | cons a l ih =>
      show Command.takeMoveWords m ((axisWord a.1 a.2).wordBefore _
        :: wordsBefore t (strokeWords l feed)) = _
      rw [wordBefore_axisWord, Command.takeMoveWords_cons_axis, ih]
      rfl

/-- All of them are words of a move. -/
theorem isMoveWord_of_mem_strokeWords {l : List (Axis × NumeralText)} {feed : NumeralText}
    {t : Text} : ∀ w ∈ wordsBefore t (strokeWords l feed), Command.isMoveWord w = true := by
  induction l with
  | nil => exact List.forall_mem_singleton.2 rfl
  | cons a l ih =>
      refine List.forall_mem_cons.2 ⟨?_, ih⟩
      simp [Command.isMoveWord, wordBefore_axisWord, Axis.ofLetter?_letter]

theorem any_isAxisWord_strokeWords {l : List (Axis × NumeralText)} (hl : l ≠ [])
    {feed : NumeralText} {t : Text} :
    (wordsBefore t (strokeWords l feed)).any Command.isAxisWord = true := by
  obtain ⟨a, l, rfl⟩ := List.exists_cons_of_ne_nil hl
  show (Command.isAxisWord ((axisWord a.1 a.2).wordBefore _) || _) = true
  simp [Command.isAxisWord, wordBefore_axisWord, Axis.ofLetter?_letter]

/-- A line with one stroke, from any registers. -/
theorem Plays.of_move {σ : Type} {k : Device σ} (rapid : Bool) (l : List (Axis × NumeralText))
    (feed : NumeralText) {m : Machine} {v : Float} {line : Text} (hl : l ≠ [])
    (htext : line = (Stroke.command rapid).text ++ texts (strokeWords l feed))
    (hfeed : value feed.1 * m.unitScale = v) :
    Plays {} k m line { m.moveAll l with feedrate := rateAfter m.feedrate [v] }
      (Stroke.log m.feedrate ⟨rapid, (m.moveAll l).position, v⟩) := by
  subst htext hfeed
  have apart : ∀ q ∈ strokeWords l feed, q.before ≠ [] := by
    intro q hq
    rcases List.mem_append.1 hq with hq | hq
    · exact before_ne_nil_of_mem_axisWords hq
    · rw [List.mem_singleton.1 hq]
      exact List.cons_ne_nil _ _
  have empty : LineTail [] := .blanks (List.forall_mem_nil _)
  have taken := span_texts apart isMoveWord_of_mem_strokeWords (.tail empty)
  rw [List.append_nil] at taken
  have run (send : PerAxis Float → Action) :
      Command.runMove {} send m (trimStart (texts (strokeWords l feed)))
        = ⟨{ m.moveAll l with feedrate := rateAfter m.feedrate [value feed.1 * m.unitScale] },
            (rateChanges m.feedrate [value feed.1 * m.unitScale]).map Action.setFeedrate
              ++ [send (m.moveAll l).position],
            []⟩ := by
    rw [Command.runMove, taken]
    simp only [takeMoveWords_strokeWords, any_isAxisWord_strokeWords hl, if_true]
    rfl
  have stops : Stops isNumeralChar (texts (strokeWords l feed)) := by
    have before := stops_texts apart (stops_nil _)
    rwa [List.append_nil] at before
  cases rapid with
  | false => exact Plays.of_command (c := .coordinatedMove) stops (run _) rfl
  | true => exact Plays.of_command (c := .rapidMove) stops (run _) rfl

/-! ### Strokes of a machine that prints -/

/-- A machine in millimetres with absolute axes and all origins at zero. -/
def printing (p : PerAxis Float) (f : Float) : Machine where
  unitScale := 1.0
  absolute := PerAxis.fill true
  origin := PerAxis.fill 0.0
  position := p
  feedrate := f

/-- The position that the words lead to.  A number is added to the origin, which is zero. -/
def strokeTarget (l : List (Axis × NumeralText)) (p : PerAxis Float) : PerAxis Float :=
  l.foldl (fun p a => p.set a.1 (0.0 + value a.2.1)) p

theorem moveAxis_printing (p : PerAxis Float) (f : Float) (i : Axis) (v : Float) :
    (printing p f).moveAxis i v = printing (p.set i (0.0 + v)) f := by
  simp [printing, Machine.moveAxis, Machine.target]

theorem moveAll_printing (l : List (Axis × NumeralText)) (p : PerAxis Float) (f : Float) :
    (printing p f).moveAll l = printing (strokeTarget l p) f := by
  induction l generalizing p with
  | nil => rfl
  | cons a l ih =>
      rw [Machine.moveAll, List.foldl_cons, show (printing p f).unitScale = 1.0 from rfl,
        Double.mul_one, moveAxis_printing]
      exact ih _

/-- There the unit is one, and the words say where the stroke goes. -/
theorem Plays.of_stroke {σ : Type} {k : Device σ} (rapid : Bool) (l : List (Axis × NumeralText))
    (feed : NumeralText) {p p' : PerAxis Float} {f v : Float} {line : Text} (hl : l ≠ [])
    (htext : line = (Stroke.command rapid).text ++ texts (strokeWords l feed))
    (htarget : strokeTarget l p = p') (hfeed : value feed.1 = v) :
    Plays {} k (printing p f) line (printing p' (rateAfter f [v]))
      (Stroke.log f ⟨rapid, p', v⟩) := by
  have rate : value feed.1 * (printing p f).unitScale = v := (Double.mul_one _).trans hfeed
  have line := Plays.of_move (k := k) rapid l feed hl htext rate
  rw [moveAll_printing, htarget] at line
  exact line

end Toolpath
