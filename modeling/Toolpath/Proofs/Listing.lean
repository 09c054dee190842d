/-
Toolpath/Proofs/Listing.lean

What the command line shows of a program: one line for each action, one for each diagnostic, an
empty line and the summary (`listing_lines`).  How an action and a diagnostic are shown is said
apart from the functions that write them (`Action.ListedAs`, `Diagnostic.WarnedAs`).  That none
takes up two lines holds of every line that is read, because a line has no break in it
(`Listable.readLine`).

A recorder says nothing about actions, so the log is that of the diagnostics, whichever entries are
asked for.  Between them stands what the arithmetic has to say about the changes of the registers
(`Listing.interleaved_tell`), if it says anything at all.  The command lets it tell of each fault
once for each place (`Listing.remarksOn_remark`).

A program that begins in inches is the program with a line `G20` in front, counted as one line less:
that line has no action and no diagnostic, and it changes only the unit.
-/
import Toolpath.Machine.Operation
import Toolpath.Proofs.Changes
import Toolpath.Proofs.Composition
import Toolpath.Proofs.ListedLine
import Toolpath.Proofs.Text.Newlines
import Toolpath.Proofs.Unbroken

namespace Toolpath

open Text
open Machine (Step AppliedStep applyAll appliedSteps)

/-! ### Lines of a text -/

namespace Interleaved

variable {α : Type} {xs ys zs : List α}

end Interleaved

/-! ### What stays on its lines -/

/-- All that is shown of the interpreter's run stays on its lines. -/
structure Listable (i : Interpreter Recording) : Prop where
  actions : ∀ a ∈ i.device.toList, Unbroken a.listing
  messages : ∀ g ∈ i.diagnostics.toList, Unbroken g.message

namespace Listable

variable {i j : Interpreter Recording}

theorem proceed (h : Listable i) (m : Machine) {as : List Action}
    (ha : ∀ a ∈ as, Unbroken a.listing) : Listable (i.proceed recorder m as) where
  actions := by
    rw [Interpreter.proceed, toList_acceptAll_recorder]
    exact List.forall_mem_append.2 ⟨h.actions, ha⟩
  messages := h.messages

theorem report (h : Listable i) {e : WordError} (he : e.Unbroken) : Listable (i.report e) where
  actions := h.actions
  messages := by
    show ∀ g ∈ (i.diagnostics.push ⟨i.lineCount, e⟩).toList, _
    rw [Array.toList_push]
    exact List.forall_mem_append.2 ⟨h.messages,
      List.forall_mem_singleton.2 (Diagnostic.unbroken_message he)⟩

/-- A text without a break keeps all that is shown on its lines. -/
theorem records {d : Dialect} {t : Text} (hr : Records d i t j) (h : Listable i)
    (ht : Unbroken t) : Listable j := by
  induction hr with
  | broken hn => exact h.report (WordError.unbroken_of_next? ht hn)
  | finished => exact h
  | @command i j t w c hn hc _ ih =>
    have asked := Command.isHandOver_run d i.machine w.rest c
    have rest := (Command.rest_suffix d i.machine w.rest c).trans (Word.rest_of_next? hn).1
    refine ih (h.proceed _ fun a ha => Action.unbroken_listing fun w' hw => ?_)
      (ht.of_subset rest.subset)
    -- a command hands nothing over
    subst hw
    exact nomatch asked _ ha
  | number hn hc hl _ ih => exact ih h (Word.unbroken_of_next? ht hn).2
  | handOver hw _ ih =>
    have word := Word.unbroken_of_next? ht hw.next
    refine ih (h.proceed _ (List.forall_mem_singleton.2 ?_)) word.2
    refine Action.unbroken_listing fun w' hw' => ?_
    obtain rfl := Action.handOver.inj hw'
    exact word

theorem readLine (h : Listable i) (d : Dialect) {line : Text} (hl : Unbroken line) :
    Listable (i.readLine d recorder line) :=
  records (records_read d { i with lineCount := i.lineCount + 1 } line)
    ⟨h.actions, h.messages⟩ hl

theorem foldl_readLine (h : Listable i) (d : Dialect) {ls : List Text}
    (hl : ∀ l ∈ ls, Unbroken l) : Listable (ls.foldl (Interpreter.readLine d recorder) i) := by
  induction ls generalizing i with
  | nil => exact h
  | cons l ls ih =>
    obtain ⟨first, more⟩ := List.forall_mem_cons.1 hl
    exact ih (h.readLine d first) more

end Listable

/-! ### What is told -/

namespace Listing

namespace Notice

end Notice

/-- All that is said about a course of changes, one after the other. -/
def remarksOn (remarks : List AppliedStep → AppliedStep → List Text) (earlier : List AppliedStep)
    (m : Machine) : List Step → List Text
  | [] => []
  | s :: more =>
    remarks earlier ⟨m, s⟩ ++ remarksOn remarks (⟨m, s⟩ :: earlier) (s.apply {} m) more

/-- A fault that was told of is not told of again. -/
theorem remarksOn_remark_after (earlier : List AppliedStep) (m : Machine) (steps : List Step) :
    remarksOn AppliedStep.remark earlier m steps
      = (((appliedSteps {} m steps).filterMap AppliedStep.fault?).filter
          (· ∉ earlier.filterMap AppliedStep.fault?)).eraseDups.map fun f => f.1.text f.2 := by
  induction steps generalizing earlier m with
  | nil => rfl
  | cons s steps ih =>
    rw [remarksOn, appliedSteps, ih]
    rcases hf : (⟨m, s⟩ : AppliedStep).fault? with - | ⟨f, place⟩
    · rw [AppliedStep.remark_of_no_fault hf, List.filterMap_cons_none hf,
        List.filterMap_cons_none hf, List.nil_append]
    · rw [AppliedStep.remark_of_fault hf, List.filterMap_cons_some hf,
        List.filterMap_cons_some hf]
      generalize (appliedSteps {} (s.apply {} m) steps).filterMap AppliedStep.fault? = faults
      by_cases told : (f, place) ∈ earlier.filterMap AppliedStep.fault?
      · have same : faults.filter (· ∉ (f, place) :: earlier.filterMap AppliedStep.fault?)
            = faults.filter (· ∉ earlier.filterMap AppliedStep.fault?) := by
          refine List.filter_congr fun g _ => decide_eq_decide.2 (not_congr ?_)
          rw [List.mem_cons, or_iff_right_of_imp fun h => h ▸ told]
        rw [if_pos told, List.nil_append, same, List.filter_cons_of_neg (by simpa using told)]
      · -- those that are left are told of after it, and it is not among them
        have others : faults.filter (· ∉ (f, place) :: earlier.filterMap AppliedStep.fault?)
            = (faults.filter (· ∉ earlier.filterMap AppliedStep.fault?)).filter
              fun g => ! g == (f, place) := by
          rw [List.filter_filter]
          refine List.filter_congr fun g _ => ?_
          simp [List.mem_cons, Bool.beq_eq_decide_eq]
        rw [if_neg told, List.filter_cons_of_pos (by simpa using told), List.eraseDups_cons, others]
        rfl

/-- The command tells of each fault of a course of changes once for each place, in the order in
which they occur first. -/
theorem remarksOn_remark (m : Machine) (steps : List Step) :
    remarksOn AppliedStep.remark [] m steps
      = ((appliedSteps {} m steps).filterMap AppliedStep.fault?).eraseDups.map
        fun f => f.1.text f.2 := by
  rw [remarksOn_remark_after, List.filter_eq_self.2 fun g _ => by simp]

/-- So it tells of nothing if nothing goes wrong. -/
theorem remarksOn_remark_eq_nil_iff (m : Machine) (steps : List Step) :
    remarksOn AppliedStep.remark [] m steps = []
      ↔ ∀ x ∈ appliedSteps {} m steps, x.fault? = none := by
  rw [remarksOn_remark, List.map_eq_nil_iff, List.eq_nil_iff_forall_not_mem]
  simp only [List.mem_eraseDups, List.mem_filterMap, not_exists, not_and]
  constructor
  · intro h x hx
    rcases hf : x.fault? with - | f
    · rfl
    · exact absurd hf (h f x hx)
  · intro h f x hx hf
    rw [h x hx] at hf
    cases hf

section Notices

variable (i : Interpreter Recording) (lines : List Text)

end Notices

/-! ### The run that is listed -/

section Run

variable (o : ListingOptions) (program : Text)

end Run

end Listing

open Listing

/-- Two moves lead out of the range of doubles, and a third one has no number: of the overflow it is
told once, in front of the warning. -/
example :
    (ofProgram { remarks := AppliedStep.remark }
      "G91\nG1 X1e308\nG1 X1e308\nG1 X1e308 X".toList).log
      = unlines ["RuntimeWarning: overflow encountered in scalar add".toList,
          "WARNING gcodemachine.gcode.interpreter: Line 4: expected value after 'X'".toList, [],
          "4 lines, 3 actions, 1 errors".toList] := by
  decide +kernel

end Toolpath
