/-
Toolpath/Proofs/ParameterOrder.lean

The order in which the parameters of a command are written.  Each register goes by the words with
its own letter, so words with different letters can change places, and the command does the same, to
the last bit: nothing is added up in another order (`Rearranged`).  A `G28` does not even look at
the numbers, so there only the axes count that are written at all (`read_rearranged`).

More words may follow the parameters, which the command takes as well.  What it then leaves of the
line is the same, too.
-/
import Toolpath.Proofs.Homing
import Toolpath.Proofs.Rebasing

namespace Toolpath

open Text Numeral WrittenWord

namespace WrittenWord

/-- The words of the second list are those of the first in another order, but those with the same
letter are in the same order in both.  Only their values count, and not how they are written. -/
def Rearranged (ps qs : List WrittenWord) : Prop :=
  ∀ c : Char, valuesFor c ps = valuesFor c qs

/-- A list is rearranged if the words with each letter are left in their order. -/
theorem rearranged_of_filter {ps qs : List WrittenWord}
    (h : ∀ c : Char, (ps.filter fun p => p.letter.toUpper = c)
      = qs.filter fun p => p.letter.toUpper = c) : Rearranged ps qs := by
  intro c
  rw [valuesFor, valuesFor, h]

/-- Two words with different letters can change places. -/
theorem rearranged_swap (us vs : List WrittenWord) {p q : WrittenWord}
    (h : p.letter.toUpper ≠ q.letter.toUpper) :
    Rearranged (us ++ p :: q :: vs) (us ++ q :: p :: vs) := by
  refine rearranged_of_filter fun c => ?_
  rw [List.filter_append, List.filter_append]
  by_cases hp : p.letter.toUpper = c
  · have hq : q.letter.toUpper ≠ c := fun hq => h (hp.trans hq.symm)
    simp [hp, hq]
  · simp [hp, List.filter_cons]

/-- Of rearranged words the same are taken for each register, with any words after them. -/
theorem Rearranged.valuesOf_eq {ps qs : List WrittenWord} (h : Rearranged ps qs) {q : Word → Bool}
    {c : Char} (hq : ∀ p t, q (wordBefore p t) = decide (p.letter.toUpper = c)) (t : Text)
    (ws : List Word) :
    Command.valuesOf q (wordsBefore t ps ++ ws) = Command.valuesOf q (wordsBefore t qs ++ ws) := by
  rw [Command.valuesOf_append, Command.valuesOf_append, valuesOf_wordsBefore hq,
    valuesOf_wordsBefore hq, h]

end WrittenWord

namespace Command

/-! ### Running -/

section

variable {ps qs : List WrittenWord} {t : Text} (m : Machine)

theorem run_rearranged_of_sends {c : Command} {send : PerAxis Float → Action} (hc : c.Sends send)
    (hps : ∀ p ∈ ps, p.IsParameter) (hqs : ∀ q ∈ qs, q.IsParameter) (h : Rearranged ps qs)
    (ht : Stops isNumeralChar t) :
    c.run {} m (trimStart (texts ps ++ t)) = c.run {} m (trimStart (texts qs ++ t)) := by
  -- the move takes the same words of the text after them, too
  let more := Word.span {} isMoveWord (trimStart t)
  have axes (i : Axis) : valuesOf (isWordFor i) (wordsBefore t ps ++ more.1)
      = valuesOf (isWordFor i) (wordsBefore t qs ++ more.1) :=
    h.valuesOf_eq (isWordFor_wordBefore i) t more.1
  have taken : takeMoveWords m (wordsBefore t ps ++ more.1)
      = takeMoveWords m (wordsBefore t qs ++ more.1) :=
    takeMoveWords_congr m (h.valuesOf_eq isFeedWord_wordBefore t more.1) axes
  rw [hc.run_eq, hc.run_eq, runMove, runMove, span_isMoveWord hps ht, span_isMoveWord hqs ht]
  simp only [taken, any_isAxisWord_congr axes, more]

theorem run_rearranged_rebase (hps : ∀ p ∈ ps, p.IsParameter ∧ p.letter.toUpper ≠ 'F')
    (hqs : ∀ q ∈ qs, q.IsParameter ∧ q.letter.toUpper ≠ 'F') (h : Rearranged ps qs)
    (ht : Stops isNumeralChar t) :
    rebase.run {} m (trimStart (texts ps ++ t)) = rebase.run {} m (trimStart (texts qs ++ t)) := by
  let more := Word.span {} Command.isAxisWord (trimStart t)
  have taken : takeOriginWords m (wordsBefore t ps ++ more.1)
      = takeOriginWords m (wordsBefore t qs ++ more.1) :=
    takeOriginWords_congr m fun i => h.valuesOf_eq (isWordFor_wordBefore i) t more.1
  rw [run, run, span_isAxisWord hps ht, span_isAxisWord hqs ht]
  exact congrArg (fun m' => (⟨m', [], more.2⟩ : Outcome)) taken

/-- Only which axes are named makes a difference to a `G28`. -/
theorem run_home_congr {xs ys : List AxisItem} (hxs : ∀ x ∈ xs, x.number ≠ [])
    (hys : ∀ y ∈ ys, y.number ≠ []) (h : ∀ i, i ∈ xs.map AxisItem.axis ↔ i ∈ ys.map AxisItem.axis)
    (ht : Stops isNumeralChar t) :
    home.run {} m (trimStart (AxisItem.texts xs ++ t))
      = home.run {} m (trimStart (AxisItem.texts ys ++ t)) := by
  have names {zs : List AxisItem} (hzs : ∀ z ∈ zs, z.number ≠ []) :=
    AxisItem.axisNames_texts zs ht fun z hz bare => absurd bare (hzs z hz)
  let more := Word.axisNames {} (trimStart t)
  have same : ∀ i, i ∈ xs.map AxisItem.axis ++ more.1 ↔ i ∈ ys.map AxisItem.axis ++ more.1 := by
    intro i
    rw [List.mem_append, List.mem_append, h]
  rw [run, run, names hxs, names hys]
  exact congrArg (fun axes => (⟨m.home, [.goHome axes], more.2⟩ : Outcome))
    (AxisSet.homed_congr same)

end

end Command

/-- The line goes on alike after a command that does the same with either text. -/
theorem Interpreter.read_named_congr {σ : Type} (k : Device σ) (i : Interpreter σ) {g : WrittenWord}
    {c : Command} (hg : g.Names c) {t u : Text} (ht : Stops isNumeralChar t)
    (hu : Stops isNumeralChar u)
    (h : c.run {} i.machine (trimStart t) = c.run {} i.machine (trimStart u)) :
    i.read {} k (g.text ++ t) = i.read {} k (g.text ++ u) := by
  rw [read_named k i hg ht h, read_named k i hg hu rfl]

/-- A line with a move can have the words after the move in any order in which those with the same
letter keep theirs, and a line with a `G92` too: the device is told the same actions, the registers
are the same at the end, and so are the diagnostics, whatever the text is after the words.  After
a `G28` the axes can be written in any order whatsoever, more than once, and with other numbers. -/
theorem read_rearranged {σ : Type} (k : Device σ) (i : Interpreter σ) {b : Char}
    (hb : isBlank b = true) (t : Text) :
    (∀ {g : WrittenWord} {c : Command} {send : PerAxis Float → Action} {ps qs : List WrittenWord},
      g.Names c → c.Sends send → (∀ p ∈ ps, p.IsParameter) → (∀ q ∈ qs, q.IsParameter) →
      Rearranged ps qs →
      i.read {} k (g.text ++ (texts ps ++ b :: t)) = i.read {} k (g.text ++ (texts qs ++ b :: t))) ∧
    (∀ {g : WrittenWord} {ps qs : List WrittenWord}, g.Names .rebase →
      (∀ p ∈ ps, p.IsParameter ∧ p.letter.toUpper ≠ 'F') →
      (∀ q ∈ qs, q.IsParameter ∧ q.letter.toUpper ≠ 'F') → Rearranged ps qs →
      i.read {} k (g.text ++ (texts ps ++ b :: t)) = i.read {} k (g.text ++ (texts qs ++ b :: t))) ∧
    ∀ {g : WrittenWord} {xs ys : List AxisItem}, g.Names .home →
      (∀ x ∈ xs, x.number ≠ []) → (∀ y ∈ ys, y.number ≠ []) →
      (∀ j, j ∈ xs.map AxisItem.axis ↔ j ∈ ys.map AxisItem.axis) →
      i.read {} k (g.text ++ (AxisItem.texts xs ++ b :: t))
        = i.read {} k (g.text ++ (AxisItem.texts ys ++ b :: t)) := by
  have stops : Stops isNumeralChar (b :: t) := stops_of_blank hb t
  have apart {ps : List WrittenWord} (hps : ∀ p ∈ ps, p.IsParameter) :
      Stops isNumeralChar (texts ps ++ b :: t) :=
    stops_texts (fun p hp => (hps p hp).before_ne_nil) stops
  refine ⟨?_, ?_, ?_⟩
  · intro g c send ps qs hg hc hps hqs h
    have same := Command.run_rearranged_of_sends i.machine hc hps hqs h stops
    exact Interpreter.read_named_congr k i hg (apart hps) (apart hqs) same
  · intro g ps qs hg hps hqs h
    have same := Command.run_rearranged_rebase i.machine hps hqs h stops
    exact Interpreter.read_named_congr k i hg (apart fun p hp => (hps p hp).1)
      (apart fun q hq => (hqs q hq).1) same
  · intro g xs ys hg hxs hys h
    have same := Command.run_home_congr i.machine hxs hys h stops
    exact Interpreter.read_named_congr k i hg (AxisItem.stops_texts xs stops)
      (AxisItem.stops_texts ys stops) same

/-- The line `G1 X1 F5 x2 Q` does the same as `G1 F5 X1 x2 Q`, and `G28 X1 Y2 Q` the same as
`G28 Y2 X2 Y1 Q`. -/
theorem read_x_behind_f :
    let read (line : Text) := (Interpreter.start {} #[]).read {} recorder line
    read "G1 X1 F5 x2 Q".toList = read "G1 F5 X1 x2 Q".toList ∧
      read "G28 X1 Y2 Q".toList = read "G28 Y2 X2 Y1 Q".toList := by
  have numeral (n : Text) (h : split? n = some (n, [])) : n ∈ language := mem_language_of_split? h
  let one : NumeralText := ⟨['1'], numeral _ (by decide)⟩
  let two : NumeralText := ⟨['2'], numeral _ (by decide)⟩
  let five : NumeralText := ⟨['5'], numeral _ (by decide)⟩
  obtain ⟨move, -, home⟩ := read_rearranged recorder (Interpreter.start {} #[]) (b := ' ')
    (by decide) ['Q']
  constructor
  · have x : (spaced 'X' rfl one).IsParameter := isParameter_spaced rfl _ (.inr ⟨.x, rfl⟩)
    have x' : (spaced 'x' rfl two).IsParameter := isParameter_spaced rfl _ (.inr ⟨.x, rfl⟩)
    have f : (spaced 'F' rfl five).IsParameter := isParameter_spaced rfl _ (.inl rfl)
    have swapped := rearranged_swap [] [spaced 'x' rfl two] (p := spaced 'X' rfl one)
      (q := spaced 'F' rfl five) (by simp [spaced, bare])
    refine move (Command.names_word .coordinatedMove) .coordinated ?_ ?_ swapped
    · simp only [List.nil_append, List.forall_mem_cons]
      exact ⟨x, f, x', List.forall_mem_nil _⟩
    · simp only [List.nil_append, List.forall_mem_cons]
      exact ⟨f, x, x', List.forall_mem_nil _⟩
  · have number := AxisItem.number_spaced_ne_nil
    have first : ∀ x ∈ [AxisItem.spaced .x one, .spaced .y two], x.number ≠ [] := by
      simp only [List.forall_mem_cons]
      exact ⟨number _ _, number _ _, List.forall_mem_nil _⟩
    have second : ∀ x ∈ [AxisItem.spaced .y two, .spaced .x two, .spaced .y one],
        x.number ≠ [] := by
      simp only [List.forall_mem_cons]
      exact ⟨number _ _, number _ _, number _ _, List.forall_mem_nil _⟩
    refine home (Command.names_word .home) first second fun j => ?_
    cases j <;> simp

end Toolpath
