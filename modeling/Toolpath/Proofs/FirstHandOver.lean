/-
Toolpath/Proofs/FirstHandOver.lean

What a device can change about the reading of a line.  It is told all actions and answers nothing,
but for one case: after a word that is handed over it says with which text the line goes on.  So a
device that says nothing then, and drops the rest of the line, makes the same run as a recorder up
to the first word that is handed over, and there the run ends (`readLine_ofMoves`).

Such are the device that announces all actions and every device that makes use of moves alone; to
the latter all moves of the run are the same, rapid or not (`Device.acceptAll_ofMoves`).
-/
import Toolpath.Device.MoveKeeper
import Toolpath.Proofs.Course
import Toolpath.Proofs.Pass

namespace Toolpath

/-! ### Devices with a use for moves only -/

namespace Device

variable {σ : Type}

/-- Such a device receives the targets in the order of the moves, each of them once. -/
theorem acceptAll_ofMoves (receive : PerAxis Float → σ → σ) (tells : PerAxis Float → List LogEntry)
    (as : List Action) (s : σ) :
    (ofMoves receive tells).acceptAll as s
      = (as.filterMap Action.target?).foldl (fun s target => receive target s) s := by
  induction as generalizing s with
  | nil => rfl
  | cons a as ih =>
      rw [acceptAll_cons, ih]
      cases a <;> rfl

end Device

/-! ### The same reader with another device -/

namespace Interpreter

variable {σ τ : Type}

/-- The interpreter with another device, in the state `s`. -/
def withDevice (i : Interpreter σ) (s : τ) : Interpreter τ where
  machine := i.machine
  device := s
  lineCount := i.lineCount
  diagnostics := i.diagnostics
  journal := i.journal

theorem withDevice_proceed (i : Interpreter σ) (k : Device σ) (k' : Device τ) (s : τ)
    (m : Machine) (as : List Action) :
    (i.withDevice s).proceed k' m as = (i.proceed k m as).withDevice (k'.acceptAll as s) := rfl

/-- A recording only grows. -/
theorem exists_toList_read_recorder (d : Dialect) (i : Interpreter Recording) (t : Text) :
    ∃ as, (i.read d recorder t).device.toList = i.device.toList ++ as := by
  have read := Pass.read_interpreter d i i.machine [] t
  rw [Pass.interpreter_nil] at read
  refine ⟨(Pass.onText d ⟨i.machine, [], .idle⟩ t).1.actions, ?_⟩
  rw [read]
  rcases Pass.onText d ⟨i.machine, [], .idle⟩ t with ⟨p, - | e⟩ <;>
    simp [Pass.finish, Pass.interpreter, report]

/-- Where no word comes, a line ends alike for all devices. -/
theorem read_withDevice_of_no_word {d : Dialect} {t : Text}
    (h : ∀ w, Word.next? d t ≠ .ok (some w)) (k : Device σ) (k' : Device τ) (i : Interpreter σ)
    (s : τ) : (i.withDevice s).read d k' t = (i.read d k t).withDevice s := by
  rcases hn : Word.next? d t with e | - | w
  · rw [read_of_error hn, read_of_error hn]
    rfl
  · rw [read_of_none hn, read_of_none hn]
  · exact absurd hn (h w)

/-- And the device is told nothing. -/
theorem device_read_of_no_word {d : Dialect} {t : Text}
    (h : ∀ w, Word.next? d t ≠ .ok (some w)) (k : Device σ) (i : Interpreter σ) :
    (i.read d k t).device = i.device := by
  rcases hn : Word.next? d t with e | - | w
  · rw [read_of_error hn]
    rfl
  · rw [read_of_none hn]
  · exact absurd hn (h w)

end Interpreter

/-! ### Up to the first word that is handed over -/

open Interpreter

section

variable {σ : Type} (d : Dialect) (receive : PerAxis Float → σ → σ)
  (tells : PerAxis Float → List LogEntry) (i : Interpreter Recording) (s : σ)

/-- The rest of a line: it is read to its end as if by a recorder, or up to a word that is handed
over. -/
theorem read_ofMoves (t : Text) :
    ∃ calls, (i.read d recorder t).device.toList = i.device.toList ++ calls ∧
      ((∀ a ∈ calls, a.isHandOver = false) ∧
          (i.withDevice s).read d (.ofMoves receive tells) t
            = (i.read d recorder t).withDevice ((Device.ofMoves receive tells).acceptAll calls s) ∨
        ∃ before w after m rest, calls = before ++ Action.handOver w :: after ∧
          (∀ a ∈ before, a.isHandOver = false) ∧
          Course d i.machine t m before rest ∧ HandsOver d rest w ∧
          (i.withDevice s).read d (.ofMoves receive tells) t
            = (i.withDevice s).proceed (.ofMoves receive tells) m (before ++ [.handOver w])) := by
  -- both runs follow the course
  obtain ⟨m, as, u, course, stop⟩ := exists_course d i.machine t
  have silent := course.isHandOver_eq_false
  have log : (i.proceed recorder m as).device.toList = i.device.toList ++ as :=
    toList_acceptAll_recorder as i.device
  rw [course.read_eq recorder rfl, course.read_eq (.ofMoves receive tells) rfl]
  by_cases hw : ∃ w, Word.next? d u = .ok (some w)
  · -- a word is handed over, and one of the runs ends there
    obtain ⟨w, hn⟩ := hw
    have handsOver := stop w hn
    obtain ⟨after, more⟩ := exists_toList_read_recorder d
      ((i.proceed recorder m as).proceed recorder m [.handOver w]) w.rest
    rw [read_of_handsOver handsOver recorder, read_of_handsOver handsOver (.ofMoves receive tells)]
    refine ⟨as ++ .handOver w :: after, more.trans ?_,
      Or.inr ⟨as, w, after, m, u, rfl, silent, course, handsOver, ?_⟩⟩
    · have told : ((i.proceed recorder m as).proceed recorder m [.handOver w]).device.toList
          = (i.proceed recorder m as).device.toList ++ [.handOver w] :=
        toList_acceptAll_recorder [.handOver w] _
      rw [told, log]
      simp
    · exact proceed_proceed (.ofMoves receive tells) _ m m as [.handOver w]
  · -- both runs come to the end of the line
    have none : ∀ w, Word.next? d u ≠ .ok (some w) := fun w hn => hw ⟨w, hn⟩
    rw [withDevice_proceed i recorder, read_withDevice_of_no_word none recorder,
      device_read_of_no_word none]
    exact ⟨as, log, Or.inl ⟨silent, rfl⟩⟩

/-- A line is read alike by all devices up to the first word that is handed over, and a device with
a use for moves only reads no further.

If no word of the line is handed over, the run is that of a recorder in every respect, and the
device has received the targets of all moves.  Otherwise the calls of the run are those that a
recorder gets up to the first word that is handed over, that one included; the registers are those
that the recorder's run has there, no diagnostic is added, and the device has received the targets
of the moves among these calls. -/
theorem readLine_ofMoves (line : Text) :
    let targets (calls : List Action) : List (PerAxis Float) :=
      calls.filterMap fun
        | .rapidMove target => some target
        | .coordinatedMove target => some target
        | _ => none
    announcer
        = Device.ofMoves (fun _ s => s) (fun target => [⟨.info, Announcer.positionText target⟩]) ∧
      moveKeeper = Device.ofMoves (fun target s => s.push target) (fun _ => []) ∧
      ∃ calls, (i.readLine d recorder line).device.toList = i.device.toList ++ calls ∧
        ((∀ a ∈ calls, a.isHandOver = false) ∧
            (i.withDevice s).readLine d (.ofMoves receive tells) line
              = (i.readLine d recorder line).withDevice
                  ((targets calls).foldl (fun s target => receive target s) s) ∨
          ∃ before w after m rest, calls = before ++ Action.handOver w :: after ∧
            (∀ a ∈ before, a.isHandOver = false) ∧
            Course d i.machine line m before rest ∧ HandsOver d rest w ∧
            i.readLine d recorder line
              = (proceed recorder { i with lineCount := i.lineCount + 1 } m before).read d recorder
                  rest ∧
            (i.withDevice s).readLine d (.ofMoves receive tells) line
              = { machine := m
                  device := (targets before).foldl (fun s target => receive target s) s
                  lineCount := i.lineCount + 1
                  diagnostics := i.diagnostics
                  journal := i.journal ++ (before ++ [Action.handOver w]).map Event.action }) := by
  intro targets
  have targets_eq (calls : List Action) : targets calls = calls.filterMap Action.target? := by
    refine congrArg (calls.filterMap ·) (funext fun a => ?_)
    cases a <;> rfl
  simp only [targets_eq]
  refine ⟨rfl, rfl, ?_⟩
  obtain ⟨calls, log, run⟩ :=
    read_ofMoves d receive tells { i with lineCount := i.lineCount + 1 } s line
  refine ⟨calls, log, ?_⟩
  rcases run with ⟨silent, same⟩ | ⟨before, w, after, m, rest, rfl, silent, course, handsOver, cut⟩
  · rw [Device.acceptAll_ofMoves] at same
    exact Or.inl ⟨silent, same⟩
  · refine Or.inr ⟨before, w, after, m, rest, rfl, silent, course, handsOver,
      course.read_eq recorder rfl, cut.trans ?_⟩
    -- the word itself is no move
    have moves : (before ++ [Action.handOver w]).filterMap Action.target?
        = before.filterMap Action.target? := by
      rw [List.filterMap_append, List.filterMap_cons_none rfl, List.filterMap_nil, List.append_nil]
    rw [proceed, Device.acceptAll_ofMoves, moves]
    rfl

end

end Toolpath
