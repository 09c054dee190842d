/-
Toolpath/Proofs/LetterCase.lean

The case of letters means nothing to the interpreter.  Lines that differ in the case of ASCII
letters read alike (`readsAlike_sameButCase`), so they lead to the same registers and ask for the
same actions (`readLine_sameButCase`).  The case survives only where a text is kept or quoted: in
the text after a word that is handed over, and after the letter of a broken word.
-/
import Toolpath.Proofs.Alike
import Toolpath.Proofs.Word.Capitals

namespace Toolpath

open Text

/-- Lines that differ in the case of ASCII letters do the same, whatever the lines and the
interpreter are.  The registers and the count of the lines are the same; the diagnostics are of the
same kind, for the same line and the same letter.  A recorder is told the same actions but for the
case of letters in the text after a word that is handed over; the printer comes to the same state,
and so does every device with a use for moves only. -/
theorem readLine_sameButCase {line line' : Text} (h : SameButCase line line') :
    (∀ i : Interpreter Recording,
      let first := i.readLine {} recorder line
      let second := i.readLine {} recorder line'
      second.machine = first.machine ∧ second.lineCount = first.lineCount ∧
        AlikeFrom i.diagnostics.toList (Diagnostic.Alike (WordError.Alike SameButCase))
          first.diagnostics.toList second.diagnostics.toList ∧
        AlikeFrom i.device.toList (Action.Alike SameButCase) first.device.toList
          second.device.toList) ∧
      (∀ i : Interpreter Printer,
        let first := i.readLine {} (printer {}) line
        let second := i.readLine {} (printer {}) line'
        second.machine = first.machine ∧ second.lineCount = first.lineCount ∧
          AlikeFrom i.diagnostics.toList (Diagnostic.Alike (WordError.Alike SameButCase))
            first.diagnostics.toList second.diagnostics.toList ∧
          second.device = first.device) ∧
      ∀ {σ : Type} (receive : PerAxis Float → σ → σ) (tells : PerAxis Float → List LogEntry)
        (i : Interpreter σ),
        let first := i.readLine {} (.ofMoves receive tells) line
        let second := i.readLine {} (.ofMoves receive tells) line'
        second.machine = first.machine ∧ second.lineCount = first.lineCount ∧
          AlikeFrom i.diagnostics.toList (Diagnostic.Alike (WordError.Alike SameButCase))
            first.diagnostics.toList second.diagnostics.toList ∧
          second.device = first.device := by
  have alike := readsAlike_sameButCase
  refine ⟨fun i => ?_, fun i => ?_, fun receive tells i => ?_⟩
  · have run := (Alike.refl _ (.refl _ _)).readLine (i := i) alike (respects_recorder _ _) h
    exact ⟨run.machine, run.lineCount, run.diagnostics, run.device⟩
  · have run := (Alike.refl _ rfl).readLine (i := i) alike (respects_printer alike) h
    exact ⟨run.machine, run.lineCount, run.diagnostics, run.device.symm⟩
  · have run := (Alike.refl _ rfl).readLine (i := i) alike (respects_ofMoves receive tells _) h
    exact ⟨run.machine, run.lineCount, run.diagnostics, run.device.symm⟩

/-- Bare letters of axes, a code of the bed, an exponent and a zero before an `x`, in small
letters: the bed is heated, the tool is ignored, and the head is moved to `X100 Y3`. -/
theorem readLine_small_letters :
    let line := "G28 X M140 S60 T0X9 G1 X1E2 Y3 Z".toList
    let small := "g28 x m140 s60 t0x9 g1 x1e2 y3 z".toList
    SameButCase line small ∧
      let i := (Interpreter.start {} Printer.powerOn).readLine {} (printer {}) small
      i.device.position.x = 100.0 ∧ i.device.position.y = 3.0 ∧ i.device.bedTarget = 60.0 ∧
        i.device.ignoredWords = #["T0".toList, "X9".toList] ∧ i.diagnostics.size = 1 := by
  intro line small
  have same : SameButCase line small := by decide
  refine ⟨same, ?_⟩
  obtain ⟨-, -, diagnostics, device⟩ :=
    (readLine_sameButCase same).2.1 (Interpreter.start {} Printer.powerOn)
  intro i
  rw [show i.device = _ from device, ← Array.length_toList,
    show i.diagnostics.toList.length = _ from diagnostics.length_eq]
  decide +kernel

end Toolpath
