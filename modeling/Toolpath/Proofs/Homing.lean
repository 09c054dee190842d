/-
Toolpath/Proofs/Homing.lean

What a `G28` does with the rest of its line.  It names the axes that are written after it, in either
case, with a number or bare, and as often as one likes; without any it names all of them.  Which
axes are named makes a difference to the device alone, since all registers return to zero in any
case (`read_home`).

The reader recognises a bare letter by its failure to read a word.  So the command looks at broken
words, and passes those that have the letter of an axis; the first one with another letter it leaves
in the line, where it is reported after the axes are sent home.
-/
import Toolpath.Device.Recorder
import Toolpath.Proofs.Word.AxisItem
import Toolpath.Proofs.WrittenCommand

namespace Toolpath

open Text Numeral

/-- The axes that are sent home, when those of the list are named. -/
theorem AxisSet.get_homed (l : List Axis) (i : Axis) :
    (if l = [] then full else ofList l).get i = true ↔ l = [] ∨ i ∈ l := by
  split
  · next none => simp [none, full]
  · next some => simp [some, get_ofList]

theorem AxisSet.homed_congr {l l' : List Axis} (h : ∀ i, i ∈ l ↔ i ∈ l') :
    (if l = [] then full else ofList l) = if l' = [] then full else ofList l' := by
  have empty : l = [] ↔ l' = [] := by
    rw [List.eq_nil_iff_forall_not_mem, List.eq_nil_iff_forall_not_mem]
    simp only [h]
  refine PerAxis.ext_get fun i => ?_
  rw [Bool.eq_iff_iff, get_homed, get_homed, empty, h]

namespace Command

/-- The outcome of a `G28` from the items after it. -/
theorem run_home (m : Machine) (xs : List AxisItem) {t : Text} (ht : EndsItems t) :
    home.run {} m (trimStart (AxisItem.texts xs ++ t))
      = ⟨m.home, [.goHome (if xs.map AxisItem.axis = [] then AxisSet.full
          else AxisSet.ofList (xs.map AxisItem.axis))], trimStart t⟩ := by
  have names := AxisItem.axisNames_texts xs ht.stops fun _ _ _ => ht.not_mem_language
  rw [ht.axisNames_eq, List.append_nil] at names
  rw [run, names]

end Command

/-- A `G28` with any axes after it asks for one action, which sends home the axes that are written,
or all of them if there is none.  The registers of all seven axes are zero then, and the unit, the
modes and the feed rate are left.  No item is reported, and the line goes on right behind the items:
where it ends there, nothing more happens, and a broken word there is reported after the axes were
sent home. -/
theorem read_home {g : WrittenWord} (hg : g.Names .home) (xs : List AxisItem) {t : Text}
    (ht : EndsItems t) {σ : Type} (k : Device σ) (i : Interpreter σ) :
    ∃ (m : Machine) (axes : AxisSet),
      (∀ j, axes.get j = true ↔ xs = [] ∨ j ∈ xs.map AxisItem.axis) ∧
      (∀ j, m.position.get j = 0.0 ∧ m.origin.get j = 0.0) ∧
      m.unitScale = i.machine.unitScale ∧ m.absolute = i.machine.absolute ∧
      m.feedrate = i.machine.feedrate ∧
      let homed := i.proceed k m [.goHome axes]
      i.read {} k (g.text ++ (AxisItem.texts xs ++ t)) = homed.read {} k (trimStart t) ∧
        (LineTail t → homed.read {} k (trimStart t) = homed) ∧
        ∀ e, Word.next? {} t = .error e → homed.read {} k (trimStart t) = homed.report e := by
  have zero : ∀ j : Axis, (PerAxis.fill (0.0 : Float)).get j = 0.0 := PerAxis.get_fill 0.0
  have line := Interpreter.read_named k i hg (AxisItem.stops_texts xs ht.stops)
    (Command.run_home i.machine xs ht)
  refine ⟨i.machine.home, _, fun j => ?_, fun j => ⟨zero j, zero j⟩, rfl, rfl, rfl, line, ?_, ?_⟩
  · rw [AxisSet.get_homed, List.map_eq_nil_iff]
  · intro tail
    rw [Interpreter.read_trimStart, Interpreter.read_of_none tail.next?_eq_none]
  · intro e broken
    rw [Interpreter.read_trimStart, Interpreter.read_of_error broken]

/-- After `G28 x Y5 x Q` the axes X and Y were sent home, and the `Q` was reported. -/
theorem home_x_y_then_broken :
    ((Interpreter.start {} #[]).readLine {} recorder "G28 x Y5 x Q".toList).journal
      = #[.action (.goHome (AxisSet.ofList [.x, .y])), .diagnostic ⟨1, .missingValue ['Q']⟩] := by
  have five : ['5'] ∈ language := mem_language_of_split? (t := ['5']) (r := []) (by decide)
  have blank : ∀ c ∈ [' '], isBlank c = true := List.forall_mem_singleton.2 (by decide)
  let x : AxisItem := ⟨[' '], 'x', .x, [], blank, by simp, rfl, rfl, .inl rfl⟩
  let y : AxisItem := ⟨[' '], 'Y', .y, ['5'], blank, by simp, rfl, rfl,
    .inr ⟨[], ['5'], List.forall_mem_nil _, five, rfl⟩⟩
  have ends : EndsItems [' ', 'Q'] := .letter (b := [' ']) [] blank (by simp) rfl
    fun j => by cases j <;> decide
  obtain ⟨m, axes, named, -, -, -, -, line, -, broken⟩ :=
    read_home (Command.names_word .home) [x, y, x] ends recorder
      { Interpreter.start {} #[] with lineCount := 1 }
  have both : axes = AxisSet.ofList [.x, .y] := by
    refine PerAxis.ext_get fun j => ?_
    rw [Bool.eq_iff_iff, named]
    cases j <;> simp [x, y, AxisSet.get_ofList]
  subst both
  have all := line.trans (broken (.missingValue ['Q']) rfl)
  exact congrArg Interpreter.journal all

end Toolpath
