/-
Toolpath/Proofs/Moving.lean

What a move does, from the words after it as they are written.  The words can come in any order and
any number: feed rates and axes, in either case.  They are all read before the machine moves, up to
the end of the line or the first word that is none of them, be it broken or not; then the machine is
sent to the position that they lead to, in one action (`read_move`).

Each register goes by the words with its letter (`valuesFor`): the feed rate by those with an `F`,
and the position of an axis by those with the letter of the axis.
-/
import Toolpath.Proofs.Parameters
import Toolpath.Proofs.Word.AxisItem
import Toolpath.Proofs.WrittenCommand

namespace Toolpath

open Text Numeral WrittenWord

namespace WrittenWord

/-! ### Written parameters -/

/-- The values of the words with the letter `c`, in order. -/
def valuesFor (c : Char) (ps : List WrittenWord) : List Float :=
  (ps.filter fun p => p.letter.toUpper = c).map fun p => value p.numeral

/-- A word behind blanks that gives a feed rate or is for an axis. -/
structure IsParameter (p : WrittenWord) : Prop where
  before_ne_nil : p.before ≠ []
  letter : p.letter.toUpper = 'F' ∨ ∃ i : Axis, p.letter.toUpper = i.letter

theorem isParameter_spaced {letter : Char} (hl : letter.isAlpha = true) (n : NumeralText)
    (h : letter.toUpper = 'F' ∨ ∃ i : Axis, letter.toUpper = i.letter) :
    (spaced letter hl n).IsParameter :=
  ⟨List.cons_ne_nil _ _, h⟩

theorem isFeedWord_wordBefore (p : WrittenWord) (t : Text) :
    Command.isFeedWord (p.wordBefore t) = decide (p.letter.toUpper = 'F') := by
  simp [Command.isFeedWord, wordBefore]

theorem isWordFor_wordBefore (i : Axis) (p : WrittenWord) (t : Text) :
    Command.isWordFor i (p.wordBefore t) = decide (p.letter.toUpper = i.letter) := by
  rw [Command.isWordFor, Bool.eq_iff_iff, decide_eq_true_iff, decide_eq_true_iff]
  exact Axis.ofLetter?_toUpper p.isAlpha_letter

/-- A parameter is taken by a move, and is for an axis if it is no feed rate. -/
theorem IsParameter.isMoveWord {p : WrittenWord} (h : p.IsParameter) (t : Text) :
    Command.isMoveWord (p.wordBefore t) = true ∧
      Command.isAxisWord (p.wordBefore t) = decide (p.letter.toUpper ≠ 'F') := by
  rcases h.letter with feed | ⟨i, axis⟩
  · have noAxis : Axis.ofLetter? ['F'] = none := by decide
    simp [Command.isMoveWord, Command.isAxisWord, wordBefore, feed, noAxis]
  · have notFeed : i.letter ≠ 'F' := by
      cases i <;> decide
    simp [Command.isMoveWord, Command.isAxisWord, wordBefore, axis, notFeed,
      Axis.ofLetter?_letter]

/-- The values of the words that are taken for a register. -/
theorem valuesOf_wordsBefore {q : Word → Bool} {c : Char}
    (h : ∀ p t, q (wordBefore p t) = decide (p.letter.toUpper = c)) (t : Text)
    (ps : List WrittenWord) : Command.valuesOf q (wordsBefore t ps) = valuesFor c ps := by
  induction ps with
  | nil => rfl
  | cons p ps ih =>
    rw [wordsBefore, Command.valuesOf_cons, ih, h]
    show _ = (List.filter _ (p :: ps)).map _
    rw [List.filter_cons]
    split <;> rfl

/-- An axis is among the parameters unless all of them give feed rates. -/
theorem any_isAxisWord_wordsBefore {ps : List WrittenWord} (h : ∀ p ∈ ps, p.IsParameter)
    (t : Text) :
    (wordsBefore t ps).any Command.isAxisWord = !decide (∀ p ∈ ps, p.letter.toUpper = 'F') := by
  induction ps with
  | nil => rfl
  | cons p ps ih =>
    obtain ⟨first, others⟩ := List.forall_mem_cons.1 h
    rw [wordsBefore, List.any_cons, (first.isMoveWord _).2, ih others]
    simp [Bool.decide_and]

end WrittenWord

/-! ### Running -/

namespace Command

/-- The command is a move, and `send` is its action. -/
inductive Sends : Command → (PerAxis Float → Action) → Prop
  | rapid : Sends .rapidMove .rapidMove
  | coordinated : Sends .coordinatedMove .coordinatedMove

theorem Sends.run_eq {c : Command} {send : PerAxis Float → Action} (h : c.Sends send) (d : Dialect)
    (m : Machine) (t : Text) : c.run d m t = runMove d send m t := by
  cases h <;> rfl

/-- The words that a move takes, where they are written and others may follow. -/
theorem span_isMoveWord {ps : List WrittenWord} (h : ∀ p ∈ ps, p.IsParameter) {t : Text}
    (ht : Stops isNumeralChar t) :
    Word.span {} isMoveWord (trimStart (texts ps ++ t))
      = (wordsBefore t ps ++ (Word.span {} isMoveWord (trimStart t)).1,
          (Word.span {} isMoveWord (trimStart t)).2) :=
  span_texts_append (fun p hp => (h p hp).before_ne_nil)
    (forall_mem_wordsBefore (fun p hp t => ((h p hp).isMoveWord t).1) t) ht

/-- The outcome of a move from the words after it. -/
theorem run_of_sends {c : Command} {send : PerAxis Float → Action} (hc : c.Sends send)
    (m : Machine) {ps : List WrittenWord} (hps : ∀ p ∈ ps, p.IsParameter) {t : Text}
    (ht : EndsWords isMoveWord t) :
    let done := (takeMoveWords m (wordsBefore t ps)).1
    c.run {} m (trimStart (texts ps ++ t))
      = ⟨done, (rateChanges m.feedrate ((valuesFor 'F' ps).map (· * m.unitScale))).map
            Action.setFeedrate ++
          if ∀ p ∈ ps, p.letter.toUpper = 'F' then [] else [send done.position],
          trimStart t⟩ := by
  intro done
  obtain ⟨told, -⟩ := takeMoveWords_feed m (wordsBefore t ps)
  rw [valuesOf_wordsBefore isFeedWord_wordBefore] at told
  rw [hc.run_eq, runMove, span_isMoveWord hps ht.stops, ht.span_eq, List.append_nil]
  show (⟨done, (takeMoveWords m (wordsBefore t ps)).2
    ++ if (wordsBefore t ps).any isAxisWord then _ else _, _⟩ : Outcome) = _
  rw [told, any_isAxisWord_wordsBefore hps]
  -- the move is asked for unless all words are feed rates
  by_cases feeds : ∀ p ∈ ps, p.letter.toUpper = 'F'
  · simp only [if_pos feeds, decide_eq_true feeds]
    rfl
  · simp only [if_neg feeds, decide_eq_false feeds]
    rfl

end Command

/-- A move with feed rates and axes after it, in any order: first it sets each feed rate that
changes the one in force, and then it sends the machine to the position that the words lead to,
once, unless no axis is among them.  An axis that reads positions absolutely ends at its last value,
counted from its origin; one that reads distances ends where they lead it from its old position,
added one after the other; and one that is not among the words stays.  The line goes on right behind
the words. -/
theorem read_move {g : WrittenWord} {c : Command} {send : PerAxis Float → Action}
    (hg : g.Names c) (hc : c.Sends send) {ps : List WrittenWord} (hps : ∀ p ∈ ps, p.IsParameter)
    {t : Text} (ht : EndsWords Command.isMoveWord t) {σ : Type} (k : Device σ)
    (i : Interpreter σ) :
    let m := i.machine
    let rates := (valuesFor 'F' ps).map (· * m.unitScale)
    ∃ m' : Machine,
      i.read {} k (g.text ++ (texts ps ++ t)) =
        (i.proceed k m' ((rateChanges m.feedrate rates).map Action.setFeedrate ++
          if ∀ p ∈ ps, p.letter.toUpper = 'F' then [] else [send m'.position])).read {} k
            (trimStart t) ∧
      m'.unitScale = m.unitScale ∧ m'.absolute = m.absolute ∧ m'.origin = m.origin ∧
      m'.feedrate = rateAfter m.feedrate rates ∧
      ∀ j : Axis,
        (valuesFor j.letter ps = [] → m'.position.get j = m.position.get j) ∧
        (m.absolute.get j = true → ∀ v ∈ (valuesFor j.letter ps).getLast?,
          m'.position.get j = m.origin.get j + v * m.unitScale) ∧
        (m.absolute.get j = false → m'.position.get j
          = (valuesFor j.letter ps).foldl (fun x v => x + v * m.unitScale)
              (m.position.get j)) := by
  intro m rates
  obtain ⟨-, rate⟩ := Command.takeMoveWords_feed m (wordsBefore t ps)
  obtain ⟨unit, absolute, origin⟩ := Command.takeMoveWords_keeps m (wordsBefore t ps)
  rw [valuesOf_wordsBefore isFeedWord_wordBefore] at rate
  have apart : Stops isNumeralChar (texts ps ++ t) :=
    stops_texts (fun p hp => (hps p hp).before_ne_nil) ht.stops
  have line := Interpreter.read_named k i hg apart (Command.run_of_sends hc m hps ht)
  refine ⟨_, line, unit, absolute, origin, rate, fun j => ?_⟩
  -- the position of an axis, by how it reads its values
  rw [Command.get_position_takeMoveWords, valuesOf_wordsBefore (isWordFor_wordBefore j)]
  refine ⟨fun none => ?_, fun abs v last => ?_, fun rel => ?_⟩
  · rw [none]
    rfl
  · rw [Machine.follow_of_absolute m j _ abs, Option.mem_def.1 last]
    rfl
  · exact Machine.follow_of_relative m j _ rel

/-- `G1 X1 F100 x3 Q` sets the feed rate and moves to 3 before the `Q` is reported. -/
theorem move_to_last_then_broken :
    ((Interpreter.start {} #[]).readLine {} recorder "G1 X1 F100 x3 Q".toList).journal
      = #[.action (.setFeedrate 100.0),
          .action (.coordinatedMove ((PerAxis.fill 0.0).set .x 3.0)),
          .diagnostic ⟨1, .missingValue ['Q']⟩] := by
  have numeral (n : Text) (h : split? n = some (n, [])) : n ∈ language := mem_language_of_split? h
  let ps : List WrittenWord :=
    [spaced 'X' rfl ⟨['1'], numeral _ (by decide)⟩,
      spaced 'F' rfl ⟨['1', '0', '0'], numeral _ (by decide)⟩,
      spaced 'x' rfl ⟨['3'], numeral _ (by decide)⟩]
  have parameters : ∀ p ∈ ps, p.IsParameter := by
    simp only [ps, List.forall_mem_cons]
    exact ⟨isParameter_spaced rfl _ (.inr ⟨.x, rfl⟩), isParameter_spaced rfl _ (.inl rfl),
      isParameter_spaced rfl _ (.inr ⟨.x, rfl⟩), List.forall_mem_nil _⟩
  have ends : EndsWords Command.isMoveWord [' ', 'Q'] := .other (by decide) (by rintro w ⟨⟩)
  let before : Interpreter Recording := { Interpreter.start {} #[] with lineCount := 1 }
  obtain ⟨m, line, -, -, -, -, position⟩ := read_move (Command.names_word .coordinatedMove)
    .coordinated parameters ends recorder before
  have target : m.position = (PerAxis.fill 0.0).set .x 3.0 := by
    refine PerAxis.ext_get fun j => ?_
    obtain ⟨stays, absolute, -⟩ := position j
    cases j with
    | x =>
      refine (absolute rfl (value ['3']) ?_).trans (by decide +kernel)
      simp [valuesFor, ps, spaced, bare, Axis.letter]
    | _ => exact stays (by simp [valuesFor, ps, spaced, bare, Axis.letter])
  have told : (rateChanges 0.0 ((valuesFor 'F' ps).map (· * 1.0))).map Action.setFeedrate ++
      (if ∀ p ∈ ps, p.letter.toUpper = 'F' then [] else [Action.coordinatedMove m.position])
        = [.setFeedrate 100.0, .coordinatedMove ((PerAxis.fill 0.0).set .x 3.0)] := by
    have feeds : valuesFor 'F' ps = [value ['1', '0', '0']] := by
      simp [valuesFor, ps, spaced, bare]
    have rates : rateChanges 0.0 ([value ['1', '0', '0']].map (· * 1.0)) = [100.0] := by
      decide +kernel
    have moves : ¬∀ p ∈ ps, p.letter.toUpper = 'F' := by
      simp [ps, spaced, bare]
    rw [if_neg moves, feeds, rates, target]
    rfl
  have all := congrArg Interpreter.journal (line.trans (Interpreter.read_of_error rfl))
  exact all.trans (congrArg
    (fun as => ((before.proceed recorder m as).report (.missingValue ['Q'])).journal) told)

end Toolpath
