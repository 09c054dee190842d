/-
Toolpath/Proofs/Course.lean

The part of a line that is no device's business.  Commands and line numbers are dealt with by the
interpreter alone: which registers they lead to, which actions they ask for and which text they
leave depends on the registers and on the text before them.  A `Course` is a run over such words.
A device is told the actions of a course and has no say in it (`Course.read_eq`); it is asked only
where a word is handed over.

Every line begins with a course that goes as far as possible: to a word that is handed over, to a
broken word or to the end of the line (`exists_course`).  So two runs over a line are compared by
what they do after such a course.

What commands can ask for at all is said once (`Command.Asked`).
-/
import Toolpath.Interpreter

namespace Toolpath

/-! ### Words that are handed over -/

namespace Action

/-- Whether an action hands a word over to the device. -/
def isHandOver : Action → Bool
  | .handOver _ => true
  | _ => false

end Action

/-- The text begins with the word `w`, and that is handed over to the device. -/
structure HandsOver (d : Dialect) (t : Text) (w : Word) : Prop where
  next : Word.next? d t = .ok (some w)
  noCommand : Command.ofWord? w = none
  noNumber : Interpreter.isLineNumber w = false

namespace Command

/-- A letter that begins no command. -/
theorem ofWord?_eq_none_of_letter {w : Word} (h : ∀ c ∈ all, w.letter ≠ [c.code.1]) :
    ofWord? w = none := by
  rw [ofWord?]
  split
  · next letter number hl hn =>
      apply Option.eq_none_iff_forall_ne_some.2
      intro c hc
      have code := ofCode?_eq_some_iff.1 hc
      exact h c (by cases c <;> decide) (by rw [hl, code])
  · rfl

/-- The words of a move ask for feed rates only. -/
theorem exists_of_mem_takeMoveWords {m : Machine} {ws : List Word} {a : Action}
    (h : a ∈ (takeMoveWords m ws).2) : ∃ v, a = .setFeedrate v := by
  induction ws generalizing m with
  | nil => cases h
  | cons w ws ih =>
      rw [takeMoveWords] at h
      split at h
      · split at h
        · rcases List.mem_cons.1 h with rfl | h
          · exact ⟨_, rfl⟩
          · exact ih h
        · exact ih h
      · split at h
        · exact ih h
        · exact ih h

/-- A new origin moves nothing, and changes neither the unit nor a mode. -/
theorem takeOriginWords_keeps (m : Machine) (ws : List Word) :
    (takeOriginWords m ws).unitScale = m.unitScale ∧ (takeOriginWords m ws).absolute = m.absolute ∧
      (takeOriginWords m ws).position = m.position ∧
      (takeOriginWords m ws).feedrate = m.feedrate := by
  induction ws generalizing m with
  | nil => exact ⟨rfl, rfl, rfl, rfl⟩
  | cons w ws ih =>
      rw [takeOriginWords, List.foldl_cons]
      split
      · exact ih (m.rebaseAxis _ _)
      · exact ih m

/-- A setting asks for its own action, if it is given. -/
theorem exists_of_mem_runSetting {d : Dialect} {act : Float → Action} {m : Machine} {t : Text}
    {a : Action} (h : a ∈ (runSetting d act m t).actions) : ∃ v, a = act v := by
  rw [runSetting] at h
  split at h
  · exact ⟨_, List.mem_singleton.1 h⟩
  · cases h

theorem machine_runSetting (d : Dialect) (act : Float → Action) (m : Machine) (t : Text) :
    (runSetting d act m t).machine = m := by
  rw [runSetting]
  split <;> rfl

/-- An action that a command can ask for: no command hands a word over, and what is sent home is at
least one axis. -/
inductive Asked : Action → Prop
  | rapidMove (target : PerAxis Float) : Asked (.rapidMove target)
  | coordinatedMove (target : PerAxis Float) : Asked (.coordinatedMove target)
  | setFeedrate (v : Float) : Asked (.setFeedrate v)
  | setTemperature (v : Float) : Asked (.setTemperature v)
  | setFanSpeed (v : Float) : Asked (.setFanSpeed v)
  | waitTemperature : Asked .waitTemperature
  | disableMotors : Asked .disableMotors
  | goHome {axes : AxisSet} {i : Axis} (h : axes.get i = true) : Asked (.goHome axes)

section Asked

variable (d : Dialect) (m : Machine) (t : Text)

theorem asked_runMove {send : PerAxis Float → Action} (hs : ∀ target, Asked (send target)) :
    ∀ a ∈ (runMove d send m t).actions, Asked a := by
  rw [runMove]
  refine List.forall_mem_append.2 ⟨fun a ha => ?_, ?_⟩
  · obtain ⟨v, rfl⟩ := exists_of_mem_takeMoveWords ha
    exact .setFeedrate v
  split
  · exact List.forall_mem_singleton.2 (hs _)
  · exact List.forall_mem_nil _

theorem asked_runSetting {act : Float → Action} (ha : ∀ v, Asked (act v)) :
    ∀ a ∈ (runSetting d act m t).actions, Asked a := by
  intro a h
  obtain ⟨v, rfl⟩ := exists_of_mem_runSetting h
  exact ha v

/-- A `G28` sends home the first axis that it names, or all. -/
theorem asked_home : ∀ a ∈ (home.run d m t).actions, Asked a := by
  refine List.forall_mem_singleton.2 ?_
  rcases (Word.axisNames d t).1 with - | ⟨i, named⟩
  · exact .goHome (i := .x) rfl
  · refine .goHome (i := i) ?_
    rw [if_neg (List.cons_ne_nil i named), AxisSet.get_ofList]
    exact decide_eq_true List.mem_cons_self

theorem asked_run (c : Command) : ∀ a ∈ (c.run d m t).actions, Asked a := by
  cases c with
  | rapidMove => exact asked_runMove d m t .rapidMove
  | coordinatedMove => exact asked_runMove d m t .coordinatedMove
  | home => exact asked_home d m t
  | setTemperature => exact asked_runSetting d m t .setTemperature
  | setFanSpeed => exact asked_runSetting d m t .setFanSpeed
  | setTemperatureAndWait =>
    exact List.forall_mem_append.2
      ⟨asked_runSetting d m t .setTemperature, List.forall_mem_singleton.2 .waitTemperature⟩
  | disableMotors => exact List.forall_mem_singleton.2 .disableMotors
  | fanOff => exact List.forall_mem_singleton.2 (.setFanSpeed _)
  | waitTemperature => exact List.forall_mem_singleton.2 .waitTemperature
  | useInches | useMillimetres | absolute | relative | rebase | absoluteExtruder
  | relativeExtruder => exact List.forall_mem_nil _

end Asked

/-- No command hands a word over. -/
theorem isHandOver_run (d : Dialect) (m : Machine) (t : Text) (c : Command) :
    ∀ a ∈ (c.run d m t).actions, a.isHandOver = false := by
  intro a ha
  cases asked_run d m t c a ha <;> rfl

end Command

/-! ### The interpreter some actions later -/

namespace Interpreter

variable {σ : Type}

/-- The interpreter when the registers have become `m` and the device was told `as`.  Counts and
diagnostics are not touched. -/
def proceed (k : Device σ) (i : Interpreter σ) (m : Machine) (as : List Action) : Interpreter σ :=
  { i with
    machine := m
    device := k.acceptAll as i.device
    journal := i.journal ++ as.map Event.action }

theorem proceed_nil (k : Device σ) (i : Interpreter σ) : i.proceed k i.machine [] = i := by
  simp [proceed]

theorem proceed_proceed (k : Device σ) (i : Interpreter σ) (m m' : Machine)
    (as bs : List Action) :
    (i.proceed k m as).proceed k m' bs = i.proceed k m' (as ++ bs) := by
  have journal : i.journal ++ as.map Event.action ++ bs.map Event.action
      = i.journal ++ (as ++ bs).map Event.action := by
    apply Array.toList_inj.1
    simp
  simp only [proceed, journal, Device.acceptAll_append]

theorem settle_eq_proceed (k : Device σ) (i : Interpreter σ) (o : Command.Outcome) :
    i.settle k o = i.proceed k o.machine o.actions :=
  settle_eq k i o

theorem emit_eq_proceed (k : Device σ) (i : Interpreter σ) (a : Action) :
    i.emit k a = i.proceed k i.machine [a] := by
  simp [emit, proceed]

/-- A command is the same to every device. -/
theorem step_of_command {d : Dialect} {w : Word} {c : Command} (hc : Command.ofWord? w = some c)
    (k : Device σ) (i : Interpreter σ) :
    i.step d k w
      = (i.proceed k (c.run d i.machine w.rest).machine (c.run d i.machine w.rest).actions,
        some (c.run d i.machine w.rest).rest) := by
  rw [step, hc, ← settle_eq_proceed]

theorem step_of_number {d : Dialect} {w : Word} (hc : Command.ofWord? w = none)
    (hn : isLineNumber w = true) (k : Device σ) (i : Interpreter σ) :
    i.step d k w = (i, some w.rest) := by
  rw [step, hc]
  exact if_pos hn

/-- Any other word is told to the device, which says how the line goes on. -/
theorem step_of_other {d : Dialect} {w : Word} (hc : Command.ofWord? w = none)
    (hn : isLineNumber w = false) (k : Device σ) (i : Interpreter σ) :
    i.step d k w = (i.proceed k i.machine [.handOver w], k.resume w i.device) := by
  rw [step, hc, ← emit_eq_proceed]
  exact if_neg (Bool.eq_false_iff.1 hn)

theorem read_of_stop {d : Dialect} {k : Device σ} {i : Interpreter σ} {t : Text} {w : Word}
    (hn : Word.next? d t = .ok (some w)) (ht : (i.step d k w).2 = none) :
    i.read d k t = (i.step d k w).1 := by
  rw [read_of_word hn, ht]

theorem read_of_rest {d : Dialect} {k : Device σ} {i : Interpreter σ} {t rest : Text} {w : Word}
    (hn : Word.next? d t = .ok (some w)) (ht : (i.step d k w).2 = some rest) :
    i.read d k t = (i.step d k w).1.read d k rest := by
  rw [read_of_word hn, ht]

/-- A line is read word by word: it has a broken word next, or no word, or a word after which it
stops or goes on with a rest, which is shorter. -/
theorem read_induction (d : Dialect) (k : Device σ) {motive : Interpreter σ → Text → Prop}
    (broken : ∀ i t e, Word.next? d t = .error e → motive i t)
    (finished : ∀ i t, Word.next? d t = .ok none → motive i t)
    (stop : ∀ i t w, Word.next? d t = .ok (some w) → (i.step d k w).2 = none → motive i t)
    (goesOn : ∀ i t w rest, Word.next? d t = .ok (some w) → (i.step d k w).2 = some rest →
      motive (i.step d k w).1 rest → motive i t)
    (i : Interpreter σ) (t : Text) : motive i t := by
  rcases hn : Word.next? d t with e | - | w
  · exact broken i t e hn
  · exact finished i t hn
  · rcases ht : (i.step d k w).2 with - | rest
    · exact stop i t w hn ht
    · have hlt : rest.length < t.length :=
        Nat.lt_of_le_of_lt (length_of_step ht) (Word.length_rest_of_next? hn)
      exact goesOn i t w rest hn ht (read_induction d k broken finished stop goesOn _ rest)
termination_by t.length
decreasing_by exact hlt

/-- The rest of a line from a word that is handed over. -/
theorem read_of_handsOver {d : Dialect} {t : Text} {w : Word} (h : HandsOver d t w)
    (k : Device σ) (i : Interpreter σ) :
    i.read d k t = match k.resume w i.device with
      | none => i.proceed k i.machine [.handOver w]
      | some rest => (i.proceed k i.machine [.handOver w]).read d k rest := by
  have read := read_of_word (k := k) (i := i) h.next
  rw [step_of_other h.noCommand h.noNumber] at read
  exact read

end Interpreter

/-! ### Courses -/

/-- From the registers `m`, the words at the front of the text `t` lead to the registers `m'`, ask
for the actions `as` and leave the text `u`; all of them are commands or line numbers. -/
inductive Course (d : Dialect) : Machine → Text → Machine → List Action → Text → Prop
  | stay (m : Machine) (t : Text) : Course d m t m [] t
  | command {m m' : Machine} {t u : Text} {as : List Action} {w : Word} {c : Command}
      (hn : Word.next? d t = .ok (some w)) (hc : Command.ofWord? w = some c)
      (h : Course d (c.run d m w.rest).machine (c.run d m w.rest).rest m' as u) :
      Course d m t m' ((c.run d m w.rest).actions ++ as) u
  | number {m m' : Machine} {t u : Text} {as : List Action} {w : Word}
      (hn : Word.next? d t = .ok (some w)) (hc : Command.ofWord? w = none)
      (hl : Interpreter.isLineNumber w = true) (h : Course d m w.rest m' as u) :
      Course d m t m' as u

namespace Course

variable {d : Dialect} {m m' : Machine} {t u : Text} {as : List Action}

/-- A command of which the outcome is known. -/
theorem of_run {w : Word} {c : Command} {o : Command.Outcome} (hn : Word.next? d t = .ok (some w))
    (hc : Command.ofWord? w = some c) (hr : c.run d m w.rest = o)
    (h : Course d o.machine o.rest m' as u) : Course d m t m' (o.actions ++ as) u := by
  subst hr
  exact .command hn hc h

/-- A course leaves no more text than there was. -/
theorem length_le (h : Course d m t m' as u) : u.length ≤ t.length := by
  induction h with
  | stay => exact Nat.le_refl _
  | @command m _ _ _ _ w c hn hc _ ih =>
      have rest := (Command.rest_suffix d m w.rest c).length_le
      have word := Word.length_rest_of_next? hn
      omega
  | number hn hc hl _ ih =>
      have word := Word.length_rest_of_next? hn
      omega

/-- Nothing is handed over in a course. -/
theorem isHandOver_eq_false (h : Course d m t m' as u) : ∀ a ∈ as, a.isHandOver = false := by
  induction h with
  | stay => exact List.forall_mem_nil _
  | command hn hc _ ih => exact List.forall_mem_append.2 ⟨Command.isHandOver_run d _ _ _, ih⟩
  | number hn hc hl _ ih => exact ih

/-- Whatever the device is, it is told the actions of the course, and the line goes on with the
text after it. -/
theorem read_eq {σ : Type} (h : Course d m t m' as u) (k : Device σ) {i : Interpreter σ}
    (hi : i.machine = m) : i.read d k t = (i.proceed k m' as).read d k u := by
  induction h generalizing i with
  | stay => rw [← hi, Interpreter.proceed_nil]
  | command hn hc _ ih =>
      subst hi
      rw [Interpreter.read_of_word hn, Interpreter.step_of_command hc,
        ← Interpreter.proceed_proceed]
      exact ih rfl
  | number hn hc hl _ ih =>
      rw [Interpreter.read_of_word hn, Interpreter.step_of_number hc hl]
      exact ih hi

end Course

/-- A course goes on to the end of the line, unless a broken word stops it or a word that is handed
over. -/
theorem exists_course (d : Dialect) (m : Machine) (t : Text) :
    ∃ m' as u, Course d m t m' as u ∧
      ∀ w, Word.next? d u = .ok (some w) → HandsOver d u w := by
  rcases hn : Word.next? d t with e | - | w
  · exact ⟨m, [], t, .stay m t, fun w hw => nomatch hn.symm.trans hw⟩
  · exact ⟨m, [], t, .stay m t, fun w hw => nomatch hn.symm.trans hw⟩
  have word := Word.length_rest_of_next? hn
  rcases hc : Command.ofWord? w with - | c
  · by_cases hl : Interpreter.isLineNumber w = true
    · obtain ⟨m', as, u, course, stop⟩ := exists_course d m w.rest
      exact ⟨m', as, u, .number hn hc hl course, stop⟩
    · -- a word that is handed over
      refine ⟨m, [], t, .stay m t, ?_⟩
      intro w' hw
      obtain rfl : w = w' := Option.some.inj (Except.ok.inj (hn.symm.trans hw))
      exact ⟨hn, hc, Bool.eq_false_iff.2 hl⟩
  · have rest := (Command.rest_suffix d m w.rest c).length_le
    obtain ⟨m', as, u, course, stop⟩ :=
      exists_course d (c.run d m w.rest).machine (c.run d m w.rest).rest
    exact ⟨m', _, u, .command hn hc course, stop⟩
termination_by t.length
decreasing_by
  · omega
  · omega

end Toolpath
