/-
Toolpath/Proofs/Replay.lean

A program that drives the printer, and a recording of the same program played into a printer
afterwards.  The two differ in one thing.  A code of the bed takes the setting that follows it, so
the printer reads that word together with the code and reading goes on behind it; a recorder knows
nothing of this, and the setting comes back to it as a word of its own (`Printer.Takes`).  The
printer that is fed from the recording takes the setting, too, from the text that the code was
recorded with, and then ignores the word that was recorded after it.

So the printer that is driven was given the recorded actions without the settings taken
(`untaken`), and this is the invariant of the simulation (`InStep`).  The two readers are at the
same text wherever neither is between a code and its setting, and a code with its setting is one
step of the one and two of the other (`InStep.read`).
-/
import Toolpath.Device.Printer
import Toolpath.Device.Recorder
import Toolpath.Proofs.Course

namespace Toolpath

/-! ### Settings that are taken -/

namespace Printer

/-- The word `v` stands right after `w` in its line, and it is the setting of `w`, which is a code
of the bed. -/
structure Takes (d : Dialect) (w v : Word) : Prop where
  code : bedCommand? w ≠ none
  next : Word.next? d w.rest = .ok (some v)
  letter : v.letter = ['S']

theorem takes_iff {d : Dialect} {w v : Word} :
    Takes d w v ↔
      bedCommand? w ≠ none ∧ (Word.next? d w.rest).toOption = some (some v) ∧ v.letter = ['S'] := by
  have next : (Word.next? d w.rest).toOption = some (some v) ↔
      Word.next? d w.rest = .ok (some v) := by
    cases Word.next? d w.rest <;> simp [Except.toOption]
  rw [next]
  exact ⟨fun h => ⟨h.code, h.next, h.letter⟩, fun h => ⟨h.1, h.2.1, h.2.2⟩⟩

instance (d : Dialect) (w v : Word) : Decidable (Takes d w v) :=
  decidable_of_iff _ takes_iff.symm

/-- What an action adds to the words that the printer ignores. -/
def ignored? : Action → Option Text
  | .handOver w => if bedCommand? w = none then some w.text else none
  | _ => none

end Printer

open Printer

/-- Whether an action hands over a setting that is taken by the word handed over before it. -/
def isTaken (d : Dialect) (before : Option Action) (a : Action) : Bool :=
  match before, a with
  | some (.handOver w), .handOver v => Takes d w v
  | _, _ => false

/-- The actions of a recording without the settings that are taken.  The action `before` is the one
in front of them. -/
def untakenAfter (d : Dialect) (before : Option Action) : List Action → List Action
  | [] => []
  | a :: as =>
    if isTaken d before a then untakenAfter d (some a) as else a :: untakenAfter d (some a) as

/-- The actions of a recording without the settings that are taken. -/
def untaken (d : Dialect) (log : List Action) : List Action :=
  untakenAfter d none log

/-- An action that hands nothing over is not taken. -/
theorem isTaken_of_not_handOver {d : Dialect} {before : Option Action} {a : Action}
    (h : a.isHandOver = false) : isTaken d before a = false := by
  cases a with
  | handOver w => cases h
  | _ => rcases before with - | (- | - | - | - | - | - | - | - | -) <;> rfl

/-- A word with the letter `S` is no code of the bed. -/
theorem bedCommand?_of_letter {w : Word} (h : w.letter = ['S']) : bedCommand? w = none := by
  have text : w.text = 'S' :: Significant.write w.value := by
    rw [Word.text, h]
    rfl
  rw [bedCommand?, if_neg, if_neg]
  · intro hw
    exact absurd (List.cons.inj (text.symm.trans hw)).1 (by decide)
  · intro hw
    exact absurd (List.cons.inj (text.symm.trans hw)).1 (by decide)

/-- What is taken would be ignored on its own. -/
theorem exists_of_isTaken {d : Dialect} {before : Option Action} {a : Action}
    (h : isTaken d before a = true) : ∃ v, a = .handOver v ∧ bedCommand? v = none := by
  unfold isTaken at h
  split at h
  · next w v =>
      have takes : Takes d w v := of_decide_eq_true h
      exact ⟨v, rfl, bedCommand?_of_letter takes.letter⟩
  · cases h

/-! ### Playing with and without them -/

theorem accept_ignored (d : Dialect) (a : Action) (p : Printer) (xs : Array Text) :
    Printer.accept d a { p with ignoredWords := xs }
      = { Printer.accept d a p with ignoredWords := xs ++ (ignored? a).toList } := by
  cases a with
  | handOver w =>
    rw [Printer.accept, Printer.accept, takeWord, takeWord, ignored?]
    rcases bedCommand? w with - | (- | -)
    · simp
    · simp only [setBed]
      rcases Word.setting? d w.rest with - | ⟨v, r⟩ <;> simp
    · simp only [setBed]
      rcases Word.setting? d w.rest with - | ⟨v, r⟩ <;> simp
  | _ => simp [Printer.accept, moveTo, Printer.goHome, ignored?]

/-- The settings that are taken make no difference but for the words that are ignored. -/
theorem acceptAll_untakenAfter (d : Dialect) (before : Option Action) (log : List Action)
    (p : Printer) (xs : Array Text) :
    (printer d).acceptAll log { p with ignoredWords := xs }
      = { (printer d).acceptAll (untakenAfter d before log) p with
          ignoredWords := xs ++ log.filterMap ignored? } := by
  induction log generalizing before p xs with
  | nil => simp [untakenAfter]
  | cons a log ih =>
      have more : xs ++ (ignored? a).toList ++ log.filterMap ignored?
          = xs ++ (a :: log).filterMap ignored? := by
        apply Array.toList_inj.1
        rcases h : ignored? a with - | x <;> simp [h]
      have first : (printer d).accept a { p with ignoredWords := xs }
          = { Printer.accept d a p with ignoredWords := xs ++ (ignored? a).toList } :=
        accept_ignored d a p xs
      rw [Device.acceptAll_cons, first, untakenAfter]
      split
      · next ht =>
          -- a setting that is taken is only ignored
          obtain ⟨v, rfl, hv⟩ := exists_of_isTaken ht
          have only : Printer.accept d (.handOver v) p
              = { p with ignoredWords := p.ignoredWords.push v.text } := by
            rw [Printer.accept, takeWord, hv]
          rw [only, ih (some (.handOver v)) p, more]
      · rw [ih (some a) (Printer.accept d a p), more]
        rfl

/-- What is ignored are all words that are no code of the bed. -/
theorem ignoredWords_acceptAll (d : Dialect) (log : List Action) (p : Printer) :
    ((printer d).acceptAll log p).ignoredWords = p.ignoredWords ++ log.filterMap ignored? :=
  congrArg Printer.ignoredWords (acceptAll_untakenAfter d none log p p.ignoredWords)

theorem ignoredWords_powerOn (d : Dialect) (log : List Action) :
    ((printer d).acceptAll log Printer.powerOn).ignoredWords
      = (log.filterMap ignored?).toArray := by
  rw [ignoredWords_acceptAll, show Printer.powerOn.ignoredWords = #[] from rfl]
  simp

/-- Without the settings that are taken, the printer comes to the same state, ignored words
apart. -/
theorem acceptAll_untaken (d : Dialect) (log : List Action) (p : Printer) :
    (printer d).acceptAll log p
      = { (printer d).acceptAll (untaken d log) p with
          ignoredWords := ((printer d).acceptAll log p).ignoredWords } := by
  rw [ignoredWords_acceptAll]
  exact acceptAll_untakenAfter d none log p p.ignoredWords

/-! ### The simulation -/

/-- The last of several actions, or the one in front of them. -/
theorem untakenAfter_append (d : Dialect) (before : Option Action) (as bs : List Action) :
    untakenAfter d before (as ++ bs)
      = untakenAfter d before as ++ untakenAfter d (as.getLast?.or before) bs := by
  induction as generalizing before with
  | nil => rfl
  | cons a as ih =>
      have last : (a :: as).getLast?.or before = as.getLast?.or (some a) := by
        rw [List.getLast?_cons]
        rcases as.getLast? with - | b <;> rfl
      rw [last, List.cons_append, untakenAfter, untakenAfter, ih]
      split <;> rfl

/-- Nothing is taken from actions that hand nothing over. -/
theorem untakenAfter_of_not_handOver {d : Dialect} {as : List Action}
    (h : ∀ a ∈ as, a.isHandOver = false) (before : Option Action) :
    untakenAfter d before as = as := by
  induction as generalizing before with
  | nil => rfl
  | cons a as ih =>
      obtain ⟨ha, has⟩ := List.forall_mem_cons.1 h
      rw [untakenAfter, isTaken_of_not_handOver ha, ih has]
      rfl

/-- No setting is awaited after the last action. -/
def Settled (d : Dialect) (last : Option Action) : Prop :=
  ∀ w, last = some (.handOver w) → ∀ v, ¬Takes d w v

theorem Settled.isTaken_eq_false {d : Dialect} {last : Option Action} (h : Settled d last)
    (a : Action) : isTaken d last a = false := by
  unfold isTaken
  split
  · next w v => exact decide_eq_false (h w rfl v)
  · rfl

/-- A setting is no command and no line number, so it is handed over where nothing takes it. -/
theorem handsOver_of_takes {d : Dialect} {w v : Word} (h : Takes d w v) :
    HandsOver d w.rest v := by
  refine ⟨h.next, ?_, ?_⟩
  · apply Command.ofWord?_eq_none_of_letter
    rw [h.letter]
    decide
  · rw [Interpreter.isLineNumber, h.letter]
    rfl

/-- The printer reads on behind the setting that it takes. -/
theorem resume_of_takes {d : Dialect} {w v : Word} (h : Takes d w v) :
    Printer.resume d w = v.rest := by
  obtain ⟨b, hb⟩ := Option.ne_none_iff_exists'.1 h.code
  rw [Printer.resume, hb]
  simp only [afterBed, Word.setting?_of_word h.next, if_pos h.letter]

theorem resume_of_not_takes {d : Dialect} {w : Word} (h : ∀ v, ¬Takes d w v) :
    Printer.resume d w = w.rest := by
  rw [Printer.resume]
  rcases hb : bedCommand? w with - | b
  · rfl
  · have none : Word.setting? d w.rest = none := by
      apply Word.setting?_of_stop
      intro v hn hl
      exact h v ⟨by simp [hb], hn, hl⟩
    simp only [afterBed, none]

/-- An interpreter that records and one that drives the printer, at the same text. -/
structure InStep (d : Dialect) (i : Interpreter Recording) (j : Interpreter Printer) : Prop where
  machine : j.machine = i.machine
  lineCount : j.lineCount = i.lineCount
  diagnostics : j.diagnostics = i.diagnostics
  device : j.device = (printer d).acceptAll (untaken d i.device.toList) Printer.powerOn
  settled : Settled d i.device.toList.getLast?

namespace InStep

variable {d : Dialect} {i : Interpreter Recording} {j : Interpreter Printer}

/-- Actions of which the printer is given those that are not taken. -/
theorem proceed (h : InStep d i j) (m : Machine) {as bs : List Action}
    (hb : untakenAfter d i.device.toList.getLast? as = bs)
    (hs : Settled d (as.getLast?.or i.device.toList.getLast?)) :
    InStep d (i.proceed recorder m as) (j.proceed (printer d) m bs) := by
  have log : (i.proceed recorder m as).device.toList = i.device.toList ++ as :=
    toList_acceptAll_recorder as i.device
  refine ⟨rfl, h.lineCount, h.diagnostics, ?_, ?_⟩
  · show (printer d).acceptAll bs j.device = _
    rw [log, untaken, untakenAfter_append, Option.or_none, hb, Device.acceptAll_append, h.device]
    rfl
  · rw [log, List.getLast?_append]
    exact hs

/-- A course. -/
theorem proceed_of_not_handOver (h : InStep d i j) (m : Machine) {as : List Action}
    (ha : ∀ a ∈ as, a.isHandOver = false) :
    InStep d (i.proceed recorder m as) (j.proceed (printer d) m as) := by
  refine h.proceed m (untakenAfter_of_not_handOver ha _) ?_
  rcases hl : as.getLast? with - | a
  · exact h.settled
  · rintro w ⟨⟩
    exact absurd (ha _ (List.mem_of_getLast? hl)) (by simp [Action.isHandOver])

/-- A word that takes no setting. -/
theorem proceed_handOver (h : InStep d i j) (m : Machine) {w : Word} (hw : ∀ v, ¬Takes d w v) :
    InStep d (i.proceed recorder m [.handOver w]) (j.proceed (printer d) m [.handOver w]) := by
  refine h.proceed m ?_ ?_
  · rw [untakenAfter, h.settled.isTaken_eq_false]
    rfl
  · rintro w' ⟨⟩
    exact hw

/-- A code of the bed with its setting. -/
theorem proceed_takes (h : InStep d i j) (m : Machine) {w v : Word} (hw : Takes d w v) :
    InStep d (i.proceed recorder m [.handOver w, .handOver v])
      (j.proceed (printer d) m [.handOver w]) := by
  have taken : isTaken d (some (.handOver w)) (.handOver v) = true := decide_eq_true hw
  refine h.proceed m ?_ ?_
  · rw [untakenAfter, h.settled.isTaken_eq_false, untakenAfter, taken]
    rfl
  · rintro v' ⟨⟩ u hu
    exact hu.code (bedCommand?_of_letter hw.letter)

theorem report (h : InStep d i j) (e : WordError) : InStep d (i.report e) (j.report e) := by
  refine ⟨h.machine, h.lineCount, ?_, h.device, h.settled⟩
  show j.diagnostics.push ⟨j.lineCount, e⟩ = i.diagnostics.push ⟨i.lineCount, e⟩
  rw [h.lineCount, h.diagnostics]

/-- The rest of a line. -/
theorem read {i : Interpreter Recording} {j : Interpreter Printer} (h : InStep d i j) (t : Text) :
    InStep d (i.read d recorder t) (j.read d (printer d) t) := by
  -- both follow the same course, and then only a word that is handed over can part them
  obtain ⟨m, as, u, course, stop⟩ := exists_course d i.machine t
  have hlt := course.length_le
  have h' := h.proceed_of_not_handOver m course.isHandOver_eq_false
  rw [course.read_eq recorder rfl, course.read_eq (printer d) h.machine]
  generalize i.proceed recorder m as = i at h' ⊢
  generalize j.proceed (printer d) m as = j at h' ⊢
  rcases hn : Word.next? d u with e | - | w
  · rw [Interpreter.read_of_error hn, Interpreter.read_of_error hn]
    exact h'.report e
  · rw [Interpreter.read_of_none hn, Interpreter.read_of_none hn]
    exact h'
  have hw := stop w hn
  have rest := Word.length_rest_of_next? hn
  rw [Interpreter.read_of_handsOver hw recorder, Interpreter.read_of_handsOver hw (printer d),
    h'.machine]
  show InStep d ((i.proceed recorder i.machine [.handOver w]).read d recorder w.rest)
    ((j.proceed (printer d) i.machine [.handOver w]).read d (printer d) (Printer.resume d w))
  by_cases ht : ∃ v, Takes d w v
  · -- the recorder goes on with the setting, and the printer behind it
    obtain ⟨v, hv⟩ := ht
    have setting := Word.length_rest_of_next? hv.next
    rw [resume_of_takes hv, Interpreter.read_of_handsOver (handsOver_of_takes hv) recorder,
      Interpreter.proceed_proceed]
    exact (h'.proceed_takes i.machine hv).read v.rest
  · -- both go on behind the word
    have none : ∀ v, ¬Takes d w v := fun v hv => ht ⟨v, hv⟩
    rw [resume_of_not_takes none]
    exact (h'.proceed_handOver i.machine none).read w.rest
termination_by t.length
decreasing_by
  · omega
  · omega

theorem readLine (h : InStep d i j) (line : Text) :
    InStep d (i.readLine d recorder line) (j.readLine d (printer d) line) := by
  have count : j.lineCount + 1 = i.lineCount + 1 := congrArg (· + 1) h.lineCount
  exact read (i := { i with lineCount := i.lineCount + 1 })
    (j := { j with lineCount := j.lineCount + 1 })
    ⟨h.machine, count, h.diagnostics, h.device, h.settled⟩ line

/-- A program. -/
theorem readLines (h : InStep d i j) (lines : List Text) :
    InStep d (i.readLines d recorder lines) (j.readLines d (printer d) lines) := by
  have all : ∀ (lines : List Text) (i : Interpreter Recording) (j : Interpreter Printer),
      InStep d i j → InStep d (lines.foldl (Interpreter.readLine d recorder) i)
        (lines.foldl (Interpreter.readLine d (printer d)) j) := by
    intro lines
    induction lines with
    | nil =>
        intro i j h
        exact h
    | cons line lines ih =>
        intro i j h
        exact ih _ _ (h.readLine line)
  exact all lines _ _ ⟨h.machine, rfl, rfl, h.device, h.settled⟩

/-- Both at power-on. -/
theorem start (d : Dialect) :
    InStep d (Interpreter.start d #[]) (Interpreter.start d Printer.powerOn) := by
  refine ⟨rfl, rfl, rfl, rfl, ?_⟩
  rintro w ⟨⟩

end InStep

/-! ### Programs -/

/-- A program that drives the printer leaves the same registers, line count and diagnostics as when
it is recorded, and the printer in the state to which the recording takes it when it is played into
a printer at power-on; only the ignored words may differ.  Played back, the printer ignores all
words of the recording that are no code of the bed; driven directly, all but the settings that a
code right before them takes. -/
theorem readLines_printer_eq_replay (d : Dialect) (lines : List Text) :
    let recorded := (Interpreter.start d #[]).readLines d recorder lines
    let driven := (Interpreter.start d Printer.powerOn).readLines d (printer d) lines
    let log := recorded.device.toList
    let replayed := (printer d).acceptAll log Printer.powerOn
    driven.machine = recorded.machine ∧ driven.lineCount = recorded.lineCount ∧
      driven.diagnostics = recorded.diagnostics ∧
      driven.device
        = { replayed with ignoredWords := ((untaken d log).filterMap Printer.ignored?).toArray } ∧
      replayed.ignoredWords = (log.filterMap Printer.ignored?).toArray := by
  intro recorded driven log replayed
  have inStep : InStep d recorded driven := (InStep.start d).readLines lines
  have given : driven.device = (printer d).acceptAll (untaken d log) Printer.powerOn :=
    inStep.device
  refine ⟨inStep.machine, inStep.lineCount, inStep.diagnostics, ?_, ignoredWords_powerOn d log⟩
  rw [← ignoredWords_powerOn d (untaken d log), ← given]
  -- the settings that are taken add to the ignored words, and to nothing else
  have played : replayed = { driven.device with ignoredWords := replayed.ignoredWords } := by
    rw [given]
    exact acceptAll_untaken d log Printer.powerOn
  rw [played]

end Toolpath
