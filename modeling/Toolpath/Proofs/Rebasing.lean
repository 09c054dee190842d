/-
Toolpath/Proofs/Rebasing.lean

What a `G92` does, from the words after it as they are written, and the way back.  A `G92` moves
nothing: it gives each axis that is named the origin from which the axis stands at the value that is
named last.  So a `G1` with the same words leads each of these axes back to where it stands, if the
axis reads positions absolutely, and the machine is sent to the very position that it has
(`read_rebase_return`).

The way back is by subtraction and addition of doubles, and those may lose the last bits of
a position.  That they lose none is a condition on the position and the value, one for each axis;
the unit in force scales the value both times, and so it does not matter.
-/
import Toolpath.Proofs.Moving

namespace Toolpath

open Text Numeral WrittenWord

namespace WrittenWord

variable {ps : List WrittenWord}

/-- A parameter that gives no feed rate is for an axis. -/
theorem IsParameter.isAxisWord {p : WrittenWord} (h : p.IsParameter ∧ p.letter.toUpper ≠ 'F')
    (t : Text) : Command.isAxisWord (p.wordBefore t) = true := by
  rw [(h.1.isMoveWord t).2]
  exact decide_eq_true h.2

theorem valuesFor_eq_nil {c : Char} (h : ∀ p ∈ ps, p.letter.toUpper ≠ c) : valuesFor c ps = [] := by
  rw [valuesFor, List.filter_eq_nil_iff.2 fun p hp => by simpa using h p hp]
  rfl

end WrittenWord

namespace Command

section

variable {ps : List WrittenWord} (h : ∀ p ∈ ps, p.IsParameter ∧ p.letter.toUpper ≠ 'F') {t : Text}

include h

/-- The words that a `G92` takes, where they are written and others may follow. -/
theorem span_isAxisWord (ht : Stops isNumeralChar t) :
    Word.span {} isAxisWord (trimStart (texts ps ++ t))
      = (wordsBefore t ps ++ (Word.span {} isAxisWord (trimStart t)).1,
          (Word.span {} isAxisWord (trimStart t)).2) :=
  span_texts_append (fun p hp => (h p hp).1.before_ne_nil)
    (forall_mem_wordsBefore (fun p hp => IsParameter.isAxisWord (h p hp)) t) ht

/-- The outcome of a `G92` from the words after it. -/
theorem run_rebase (m : Machine) (ht : EndsWords isAxisWord t) :
    rebase.run {} m (trimStart (texts ps ++ t))
      = ⟨takeOriginWords m (wordsBefore t ps), [], trimStart t⟩ := by
  rw [run, span_isAxisWord h ht.stops, ht.span_eq, List.append_nil]

end

/-- Where the last value for an axis gives it its origin. -/
theorem get_origin_takeOriginWords_wordsBefore (m : Machine) (t : Text) (ps : List WrittenWord)
    (j : Axis) :
    (takeOriginWords m (wordsBefore t ps)).origin.get j
      = ((valuesFor j.letter ps).getLast?.map fun v =>
          m.position.get j - v * m.unitScale).getD (m.origin.get j) := by
  rw [get_origin_takeOriginWords_eq, valuesOf_wordsBefore (isWordFor_wordBefore j)]

/-- The words of a `G92` taken once more, as those of a move.  Where the subtraction is undone by
the addition, the registers stay as they are. -/
theorem takeMoveWords_takeOriginWords (m : Machine) {ps : List WrittenWord}
    (hps : ∀ p ∈ ps, p.letter.toUpper ≠ 'F') (t u : Text)
    (back : ∀ j : Axis, ∀ v ∈ (valuesFor j.letter ps).getLast?, m.absolute.get j = true ∧
      m.position.get j - v * m.unitScale + v * m.unitScale = m.position.get j) :
    (takeMoveWords (takeOriginWords m (wordsBefore t ps)) (wordsBefore u ps)).1
      = takeOriginWords m (wordsBefore t ps) := by
  have origin := get_origin_takeOriginWords_wordsBefore m t ps
  obtain ⟨unit, absolute, position, -⟩ := takeOriginWords_keeps m (wordsBefore t ps)
  generalize takeOriginWords m (wordsBefore t ps) = m' at *
  obtain ⟨unit', absolute', origin'⟩ := takeMoveWords_keeps m' (wordsBefore u ps)
  obtain ⟨-, rate⟩ := takeMoveWords_feed m' (wordsBefore u ps)
  rw [valuesOf_wordsBefore isFeedWord_wordBefore, valuesFor_eq_nil hps] at rate
  refine Machine.ext unit' absolute' origin' (PerAxis.ext_get fun j => ?_) rate
  rw [get_position_takeMoveWords, valuesOf_wordsBefore (isWordFor_wordBefore j)]
  rcases last : (valuesFor j.letter ps).getLast? with - | v
  · -- an axis that is not named stays
    rw [List.getLast?_eq_none_iff.1 last]
    rfl
  · obtain ⟨reads, undone⟩ := back j v last
    rw [Machine.follow_of_absolute m' j _ (absolute ▸ reads), last, Option.map_some,
      Option.getD_some, origin, last, Option.map_some, Option.getD_some, unit, undone, position]

/-- So a `G1` with these words asks for a move to where the machine is. -/
theorem run_takeOriginWords (m : Machine) {ps : List WrittenWord} (hne : ps ≠ [])
    (hps : ∀ p ∈ ps, p.IsParameter ∧ p.letter.toUpper ≠ 'F') (t : Text) {u : Text}
    (hu : EndsWords isMoveWord u)
    (back : ∀ j : Axis, ∀ v ∈ (valuesFor j.letter ps).getLast?, m.absolute.get j = true ∧
      m.position.get j - v * m.unitScale + v * m.unitScale = m.position.get j) :
    coordinatedMove.run {} (takeOriginWords m (wordsBefore t ps)) (trimStart (texts ps ++ u))
      = ⟨takeOriginWords m (wordsBefore t ps), [.coordinatedMove m.position], trimStart u⟩ := by
  have position := (takeOriginWords_keeps m (wordsBefore t ps)).2.2.1
  have stays := takeMoveWords_takeOriginWords m (fun p hp => (hps p hp).2) t u back
  have run := run_of_sends .coordinated (takeOriginWords m (wordsBefore t ps))
    (fun p hp => (hps p hp).1) hu
  -- no word gives a feed rate, and there is a word, which is for an axis then
  have feeds : valuesFor 'F' ps = [] := valuesFor_eq_nil fun p hp => (hps p hp).2
  have moves : ¬∀ p ∈ ps, p.letter.toUpper = 'F' := by
    obtain ⟨p, hp⟩ := List.exists_mem_of_ne_nil ps hne
    exact fun all => (hps p hp).2 (all p hp)
  simp only [stays, feeds, if_neg moves, List.map_nil, rateChanges_nil, List.nil_append,
    position] at run
  exact run

end Command

/-- A `G92` with any axes after it, in any order and any number, asks for no action.  It leaves the
positions, the modes, the unit and the feed rate, and the origins of the axes that are not named;
the origin of an axis that is named is put where the axis is, less the last value that is named for
it in the unit in force.

If the axes that are named read positions absolutely, and on each of them the double that was taken
away makes the position again when it is added, then a `G1` with the same words behind it leaves all
registers as they are, and asks for one action: a move to the position before the `G92`.  It may
stand on the same line or on another one. -/
theorem read_rebase_return {g g' : WrittenWord} (hg : g.Names .rebase)
    (hg' : g'.Names .coordinatedMove) {ps : List WrittenWord} (hne : ps ≠ [])
    (hps : ∀ p ∈ ps, p.IsParameter ∧ p.letter.toUpper ≠ 'F') {t t' : Text}
    (ht : EndsWords Command.isAxisWord t) (ht' : EndsWords Command.isMoveWord t') {σ : Type}
    (k : Device σ) (i : Interpreter σ) :
    let m := i.machine
    ∃ m' : Machine,
      i.read {} k (g.text ++ (texts ps ++ t)) = (i.proceed k m' []).read {} k (trimStart t) ∧
      (LineTail t → (i.proceed k m' []).read {} k (trimStart t) = i.proceed k m' []) ∧
      m'.position = m.position ∧ m'.absolute = m.absolute ∧ m'.unitScale = m.unitScale ∧
      m'.feedrate = m.feedrate ∧
      (∀ j : Axis,
        (valuesFor j.letter ps = [] → m'.origin.get j = m.origin.get j) ∧
        ∀ v ∈ (valuesFor j.letter ps).getLast?,
          m'.origin.get j = m.position.get j - v * m.unitScale) ∧
      ((∀ j : Axis, ∀ v ∈ (valuesFor j.letter ps).getLast?, m.absolute.get j = true ∧
          m.position.get j - v * m.unitScale + v * m.unitScale = m.position.get j) →
        ∀ i' : Interpreter σ, i'.machine = m' →
          i'.read {} k (g'.text ++ (texts ps ++ t'))
              = (i'.proceed k m' [.coordinatedMove m.position]).read {} k (trimStart t') ∧
            (LineTail t' → (i'.proceed k m' [.coordinatedMove m.position]).read {} k (trimStart t')
              = i'.proceed k m' [.coordinatedMove m.position])) := by
  intro m
  have apart {u : Text} (hu : Stops isNumeralChar u) : Stops isNumeralChar (texts ps ++ u) :=
    stops_texts (fun p hp => (hps p hp).1.before_ne_nil) hu
  have ends {u : Text} (hu : LineTail u) (i : Interpreter σ) : i.read {} k (trimStart u) = i := by
    rw [Interpreter.read_trimStart, Interpreter.read_of_none hu.next?_eq_none]
  have line := Interpreter.read_named k i hg (apart ht.stops) (Command.run_rebase hps m ht)
  obtain ⟨unit, absolute, position, rate⟩ := Command.takeOriginWords_keeps m (wordsBefore t ps)
  have origin := Command.get_origin_takeOriginWords_wordsBefore m t ps
  refine ⟨Command.takeOriginWords m (wordsBefore t ps), line, fun tail => ends tail _, position,
    absolute, unit, rate, fun j => ⟨fun none => ?_, fun v last => ?_⟩,
    fun back i' hi' => ⟨?_, fun tail => ends tail _⟩⟩
  · rw [origin, none]
    rfl
  · rw [origin, Option.mem_def.1 last]
    rfl
  · have run := Command.run_takeOriginWords m hne hps t ht' back
    rw [← hi'] at run ⊢
    exact Interpreter.read_named k i' hg' (apart ht'.stops) run

/-- Where X is at 3 and the inch is in force, `G92 X1 x5` puts the origin of X at -124, and then
`G1 X1 x5` moves to where the machine is. -/
theorem return_to_x_in_inches :
    let i := (Interpreter.start {} #[]).readLines {} recorder ["G1 X3 Y7".toList, "G20".toList]
    let j := i.readLine {} recorder "G92 X1 x5".toList
    let l := j.readLine {} recorder "G1 X1 x5".toList
    j.device = i.device ∧ j.machine.origin.get .x = -124.0 ∧
      l.machine = j.machine ∧ l.device = j.device.push (.coordinatedMove i.machine.position) := by
  intro i j l
  have numeral (n : Text) (h : split? n = some (n, [])) : n ∈ language := mem_language_of_split? h
  let ps : List WrittenWord :=
    [spaced 'X' rfl ⟨['1'], numeral _ (by decide)⟩, spaced 'x' rfl ⟨['5'], numeral _ (by decide)⟩]
  have axes : ∀ p ∈ ps, p.IsParameter ∧ p.letter.toUpper ≠ 'F' := by
    simp only [ps, List.forall_mem_cons]
    exact ⟨⟨isParameter_spaced rfl _ (.inr ⟨.x, rfl⟩), by simp [spaced, bare]⟩,
      ⟨isParameter_spaced rfl _ (.inr ⟨.x, rfl⟩), by simp [spaced, bare]⟩, List.forall_mem_nil _⟩
  have blank : LineTail [] := .blanks (List.forall_mem_nil _)
  obtain ⟨m, rebased, tail, -, -, -, -, origin, back⟩ :=
    read_rebase_return (Command.names_word .rebase) (Command.names_word .coordinatedMove)
      (List.cons_ne_nil _ _) axes (.tail blank) (.tail blank) recorder
      { i with lineCount := i.lineCount + 1 }
  have five : value ['5'] ∈ (valuesFor Axis.x.letter ps).getLast? := by
    simp [valuesFor, ps, spaced, bare, Axis.letter]
  -- only X is named, and its last value is 5 inches
  have undone : ∀ axis : Axis, ∀ v ∈ (valuesFor axis.letter ps).getLast?,
      i.machine.absolute.get axis = true ∧ i.machine.position.get axis - v * i.machine.unitScale
        + v * i.machine.unitScale = i.machine.position.get axis := by
    intro axis v last
    cases axis with
    | x =>
      obtain rfl := Option.mem_unique five last
      decide +kernel
    | _ => simp [valuesFor, ps, spaced, bare, Axis.letter] at last
  have first : j = _ := rebased.trans (tail blank)
  obtain ⟨moved, ends⟩ := back undone { j with lineCount := j.lineCount + 1 }
    (congrArg Interpreter.machine first)
  have second : l = _ := moved.trans (ends blank)
  refine ⟨(congrArg Interpreter.device first).trans rfl, ?_, ?_,
    (congrArg Interpreter.device second).trans rfl⟩
  · rw [congrArg Interpreter.machine first]
    exact ((origin .x).2 _ five).trans (by decide +kernel)
  · rw [congrArg Interpreter.machine second, congrArg Interpreter.machine first]
    rfl

end Toolpath
