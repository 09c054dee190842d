/-
Toolpath/Proofs/WellFormed.lean

What a line can ask for.  Positions hold all axes, something is sent home whenever a `G28` is run,
and what is handed over is neither the number of a line nor the name of a command: its letter and
the integer part of its number belong to no command (`HandedOver`).

The text after a word is an end of the line, and so is what a command leaves of it; so the texts that
come with the words handed over from one line are ends of the line, each a shorter end of the one
before it (`WellFormed`).  This is kept by every word of the line, read from behind: what a word
asks for is put in front of what the shorter text after it asks for.  The induction is over the ways
in which a recorder, which drops no word, reads a text (`Records`).
-/
import Toolpath.Device.Recorder
import Toolpath.Proofs.Course
import Toolpath.Proofs.Double.WholePart
import Toolpath.Proofs.Word.Reading

namespace Toolpath

open Text

/-! ### Actions of a line -/

/-- A word that may be handed over from a line. -/
structure HandedOver (line : Text) (w : Word) : Prop where
  /-- It is not the number of a line. -/
  notNumber : w.letter ≠ ['N']
  /-- It names no command, by the integer part of its number. -/
  noCommand : ∀ (c : Command) (r : ℚ), w.letter = [c.code.1] → number? w.value = some r →
    c.code.2 ≠ towardZero r
  /-- The text after it is an end of the line, -/
  suffix : w.rest <:+ line
  /-- shorter by a letter and a character of the number, -/
  length_le : w.rest.length + 2 ≤ line.length
  /-- and has no blank in front. -/
  notBlank : ∀ c ∈ w.rest.head?, isBlank c = false

namespace Action

/-- An action that a line may ask for. -/
def WellFormed (line : Text) : Action → Prop
  | .rapidMove target => target.toList.length = 7
  | .coordinatedMove target => target.toList.length = 7
  | .goHome axes => axes.mask ≠ 0 ∧ axes.mask &&& AxisSet.full.mask = axes.mask
  | .handOver w => HandedOver line w
  | _ => True

/-- The text after a word that is handed over. -/
def remaining? : Action → Option Text
  | .handOver w => some w.rest
  | _ => none

theorem remaining?_of_not_handOver {a : Action} (h : a.isHandOver = false) :
    a.remaining? = none := by
  cases a with
  | handOver w => cases h
  | _ => rfl

/-- What a line may ask for, a longer line may ask for too. -/
theorem WellFormed.mono {t line : Text} {a : Action} (ht : t <:+ line) (h : a.WellFormed t) :
    a.WellFormed line := by
  cases a with
  | handOver w =>
    have shorter : w.rest.length + 2 ≤ line.length := h.length_le.trans ht.length_le
    exact ⟨h.notNumber, h.noCommand, h.suffix.trans ht, shorter, h.notBlank⟩
  | _ => exact h

end Action

/-! ### Commands -/

namespace AxisSet

/-- Only the set without axes has the mask zero. -/
theorem mask_ne_zero {s : AxisSet} {i : Axis} (h : s.get i = true) : s.mask ≠ 0 := by
  intro hm
  have none : s = empty := by
    rw [← ofMask_mask s, hm]
    rfl
  rw [none, empty, PerAxis.get_fill] at h
  cases h

theorem mask_and_full (s : AxisSet) : s.mask &&& full.mask = s.mask := by
  rcases s with ⟨x, y, z, e, a, b, c⟩
  revert x y z e a b c
  decide

end AxisSet

/-- All that a command asks for is well formed, whatever the line is. -/
theorem Command.wellFormed_run (d : Dialect) (m : Machine) (t line : Text) (c : Command) :
    ∀ a ∈ (c.run d m t).actions, a.WellFormed line := by
  intro a ha
  cases asked_run d m t c a ha with
  | rapidMove target | coordinatedMove target => exact target.length_toList
  | goHome h => exact ⟨AxisSet.mask_ne_zero h, AxisSet.mask_and_full _⟩
  | _ => trivial

/-! ### Words that are handed over -/

/-- The text after a word has no blank in front. -/
theorem Word.not_blank_of_next? {d : Dialect} {t : Text} {w : Word}
    (h : Word.next? d t = .ok (some w)) : ∀ c ∈ w.rest.head?, isBlank c = false := by
  have reads := Word.reads_next? d t
  rw [h] at reads
  cases reads with
  | @word _ after p =>
    intro c hc
    obtain ⟨r, hr⟩ := List.head?_eq_some_iff.1 hc
    exact not_blank_of_trimStart_eq_cons hr

/-- A word that names no command has a number without integer part, or one of which the integer part
is no command's. -/
theorem Command.code_ne_of_ofWord? {w : Word} (h : ofWord? w = none) (c : Command) (r : ℚ)
    (hl : w.letter = [c.code.1]) (hr : number? w.value = some r) : c.code.2 ≠ towardZero r := by
  intro hn
  have number : integerPart? w.value = some c.code.2 := by
    rw [integerPart?_eq, hr, hn]
    rfl
  have named : ofWord? w = some c := by
    rw [ofWord?, hl, number]
    exact ofCode?_code c
  rw [h] at named
  cases named

theorem HandsOver.wellFormed {d : Dialect} {t : Text} {w : Word} (h : HandsOver d t w) :
    (Action.handOver w).WellFormed t where
  notNumber := of_decide_eq_false h.noNumber
  noCommand := Command.code_ne_of_ofWord? h.noCommand
  suffix := (Word.rest_of_next? h.next).1
  length_le := (Word.rest_of_next? h.next).2
  notBlank := Word.not_blank_of_next? h.next

/-! ### All actions of a line -/

/-- What a line may ask for, in this order: each action is well formed, and each of the texts that
come with the words handed over is a shorter end of all before it. -/
structure WellFormed (line : Text) (as : List Action) : Prop where
  actions : ∀ a ∈ as, a.WellFormed line
  remaining : (as.filterMap Action.remaining?).Pairwise fun t u => u <:+ t ∧ u.length < t.length

namespace WellFormed

variable {line t : Text} {as bs : List Action}

theorem nil (line : Text) : WellFormed line [] where
  actions := List.forall_mem_nil _
  remaining := .nil

/-- Commands are followed by what the text they leave asks for. -/
theorem append_of_not_handOver (ha : ∀ a ∈ as, a.WellFormed line)
    (hs : ∀ a ∈ as, a.isHandOver = false) (ht : t <:+ line) (h : WellFormed t bs) :
    WellFormed line (as ++ bs) where
  actions := List.forall_mem_append.2 ⟨ha, fun b hb => (h.actions b hb).mono ht⟩
  remaining := by
    have silent : as.filterMap Action.remaining? = [] :=
      List.filterMap_eq_nil_iff.2 fun a ha => Action.remaining?_of_not_handOver (hs a ha)
    rw [List.filterMap_append, silent]
    exact h.remaining

/-- A word that is handed over is followed by what the text after it asks for. -/
theorem handOver_cons {w : Word} (hw : (Action.handOver w).WellFormed line)
    (h : WellFormed w.rest bs) : WellFormed line (.handOver w :: bs) where
  actions := List.forall_mem_cons.2 ⟨hw, fun b hb => (h.actions b hb).mono hw.suffix⟩
  remaining := by
    refine List.pairwise_cons.2 ⟨fun u hu => ?_, h.remaining⟩
    obtain ⟨b, hb, hbu⟩ := List.mem_filterMap.1 hu
    cases b with
    | handOver w' =>
      obtain rfl := Option.some.inj hbu
      -- the later text is an end of the earlier one by at least a word
      have later : HandedOver w.rest w' := h.actions _ hb
      have shorter := later.length_le
      exact ⟨later.suffix, by omega⟩
    | _ => cases hbu

end WellFormed

/-! ### Lines that are recorded -/

/-- A recorder that reads the text leads from the one interpreter to the other.  It drops no word,
and goes on right after those that were handed over. -/
inductive Records (d : Dialect) :
    Interpreter Recording → Text → Interpreter Recording → Prop
  | broken {i : Interpreter Recording} {t : Text} {e : WordError}
      (hn : Word.next? d t = .error e) : Records d i t (i.report e)
  | finished {i : Interpreter Recording} {t : Text} (hn : Word.next? d t = .ok none) :
      Records d i t i
  | command {i j : Interpreter Recording} {t : Text} {w : Word} {c : Command}
      (hn : Word.next? d t = .ok (some w)) (hc : Command.ofWord? w = some c)
      (h : Records d (i.proceed recorder (c.run d i.machine w.rest).machine
        (c.run d i.machine w.rest).actions) (c.run d i.machine w.rest).rest j) :
      Records d i t j
  | number {i j : Interpreter Recording} {t : Text} {w : Word}
      (hn : Word.next? d t = .ok (some w)) (hc : Command.ofWord? w = none)
      (hl : Interpreter.isLineNumber w = true) (h : Records d i w.rest j) : Records d i t j
  | handOver {i j : Interpreter Recording} {t : Text} {w : Word} (hw : HandsOver d t w)
      (h : Records d (i.proceed recorder i.machine [.handOver w]) w.rest j) : Records d i t j

/-- Every text is read so. -/
theorem records_read (d : Dialect) (i : Interpreter Recording) (t : Text) :
    Records d i t (i.read d recorder t) := by
  rcases hn : Word.next? d t with e | - | w
  · rw [Interpreter.read_of_error hn]
    exact .broken hn
  · rw [Interpreter.read_of_none hn]
    exact .finished hn
  have word := Word.length_rest_of_next? hn
  rw [Interpreter.read_of_word hn]
  rcases hc : Command.ofWord? w with - | c
  · by_cases hl : Interpreter.isLineNumber w = true
    · rw [Interpreter.step_of_number hc hl]
      exact .number hn hc hl (records_read d _ w.rest)
    · have hl := Bool.eq_false_iff.2 hl
      rw [Interpreter.step_of_other hc hl]
      exact .handOver ⟨hn, hc, hl⟩ (records_read d _ w.rest)
  · have rest := (Command.rest_suffix d i.machine w.rest c).length_le
    rw [Interpreter.step_of_command hc]
    exact .command hn hc (records_read d _ _)
termination_by t.length
decreasing_by all_goals omega

/-- What is recorded of a text is well formed. -/
theorem Records.exists_wellFormed {d : Dialect} {i j : Interpreter Recording} {t : Text}
    (h : Records d i t j) :
    ∃ as, j.device.toList = i.device.toList ++ as ∧ WellFormed t as := by
  induction h with
  | broken | finished => exact ⟨[], (List.append_nil _).symm, .nil _⟩
  | @command i j t w c hn hc _ ih =>
    obtain ⟨bs, hbs, formed⟩ := ih
    refine ⟨(c.run d i.machine w.rest).actions ++ bs, ?_, ?_⟩
    · rw [hbs, Interpreter.proceed, toList_acceptAll_recorder, List.append_assoc]
    · exact .append_of_not_handOver (Command.wellFormed_run d i.machine w.rest t c)
        (Command.isHandOver_run d i.machine w.rest c)
        ((Command.rest_suffix d i.machine w.rest c).trans (Word.rest_of_next? hn).1) formed
  | number hn hc hl _ ih =>
    obtain ⟨bs, hbs, formed⟩ := ih
    exact ⟨bs, hbs, .append_of_not_handOver (List.forall_mem_nil _) (List.forall_mem_nil _)
      (Word.rest_of_next? hn).1 formed⟩
  | handOver hw _ ih =>
    obtain ⟨bs, hbs, formed⟩ := ih
    refine ⟨.handOver _ :: bs, ?_, .handOver_cons hw.wellFormed formed⟩
    rw [hbs, Interpreter.proceed, toList_acceptAll_recorder, List.append_assoc]
    rfl

/-- Whatever the registers are and whatever was recorded before, each action that a line adds to a
recording is well formed, and no command is ever handed over.

A move carries seven coordinates.  A `G28` sends a set of axes home that has not the mask zero, and
no bit that the mask of all axes has not.  A word that is handed over has not the letter `N`; if its
number is finite, then the letter and the number rounded toward zero are no command's; and the text
after it is an end of the line, shorter by two characters at least, that does not begin with a blank.
The texts after the words that are handed over, in their order, are each a shorter end of those
before it. -/
theorem recorded_wellFormed (d : Dialect) (i : Interpreter Recording) (line : Text) :
    ∃ as, (i.readLine d recorder line).device.toList = i.device.toList ++ as ∧
      (∀ a ∈ as, a.WellFormed line) ∧
      (as.filterMap Action.remaining?).Pairwise fun t u => u <:+ t ∧ u.length < t.length := by
  obtain ⟨as, recorded, formed⟩ :=
    (records_read d { i with lineCount := i.lineCount + 1 } line).exists_wellFormed
  exact ⟨as, recorded, formed.actions, formed.remaining⟩

end Toolpath
