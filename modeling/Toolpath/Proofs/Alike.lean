/-
Toolpath/Proofs/Alike.lean

Runs over texts that read alike.  When the words of two texts are the same but for the text after
them (`ReadsAlike`), commands take the same parameters from both, lead to the same registers and ask
for the same actions.  Only a word that is handed over brings its text with it.  So two runs over
such texts keep equal registers and counts, report for the same lines, and their devices stay in any
relation that the devices respect (`Respects`).

The step lemma is `Alike.step`; from it come a line (`Alike.readLine`) and a program
(`Alike.readLines`).  The recorder, the printer and every device with a use for moves only respect
what is needed: recordings are related action by action, and the states of the others are equal.
-/
import Toolpath.Device.Printer
import Toolpath.Proofs.FirstHandOver
import Toolpath.Proofs.Word.Alike

namespace Toolpath

/-! ### Lists that go on alike -/

/-- Both lists begin with `base`, and what follows is related one by one. -/
def AlikeFrom {α : Type} (base : List α) (P : α → α → Prop) (x y : List α) : Prop :=
  ∃ as as', x = base ++ as ∧ y = base ++ as' ∧ List.Forall₂ P as as'

namespace AlikeFrom

variable {α : Type} {base x y : List α} {P : α → α → Prop}

theorem refl (base : List α) (P : α → α → Prop) : AlikeFrom base P base base :=
  ⟨[], [], (List.append_nil _).symm, (List.append_nil _).symm, .nil⟩

theorem concat (h : AlikeFrom base P x y) {a a' : α} (ha : P a a') :
    AlikeFrom base P (x ++ [a]) (y ++ [a']) := by
  obtain ⟨as, as', rfl, rfl, has⟩ := h
  exact ⟨as ++ [a], as' ++ [a'], List.append_assoc .., List.append_assoc ..,
    List.rel_append has (.cons ha .nil)⟩

theorem length_eq (h : AlikeFrom base P x y) : y.length = x.length := by
  obtain ⟨as, as', rfl, rfl, has⟩ := h
  rw [List.length_append, List.length_append, has.length_eq]

end AlikeFrom

/-! ### Actions -/

/-- Equal actions, or words that are handed over and differ in the text after them. -/
inductive Action.Alike (S : Text → Text → Prop) : Action → Action → Prop
  | same {a : Action} (ha : a.isHandOver = false) : Alike S a a
  | handOver {w w' : Word} (hw : Word.Alike S w w') : Alike S (.handOver w) (.handOver w')

theorem Action.alike_of_not_handOver {S : Text → Text → Prop} {as : List Action}
    (h : ∀ a ∈ as, a.isHandOver = false) : List.Forall₂ (Action.Alike S) as as :=
  List.forall₂_same.2 fun a ha => .same (h a ha)

/-! ### Commands -/

namespace Command

variable {d : Dialect} {S : Text → Text → Prop} {E : WordError → WordError → Prop}

/-- The parameters of a move count by their letters and numbers only. -/
theorem takeMoveWords_alike (m : Machine) {ws ws' : List Word}
    (h : List.Forall₂ (Word.Alike S) ws ws') : takeMoveWords m ws' = takeMoveWords m ws := by
  induction h generalizing m with
  | nil => rfl
  | cons hw _ ih =>
    rw [takeMoveWords, takeMoveWords, hw.letter, hw.value]
    simp only [ih]

theorem takeOriginWords_alike (m : Machine) {ws ws' : List Word}
    (h : List.Forall₂ (Word.Alike S) ws ws') : takeOriginWords m ws' = takeOriginWords m ws := by
  induction h generalizing m with
  | nil => rfl
  | cons hw _ ih =>
    rw [takeOriginWords, takeOriginWords, List.foldl_cons, List.foldl_cons, hw.letter, hw.value]
    exact ih _

theorem any_isAxisWord_alike {ws ws' : List Word} (h : List.Forall₂ (Word.Alike S) ws ws') :
    ws'.any isAxisWord = ws.any isAxisWord := by
  induction h with
  | nil => rfl
  | cons hw _ ih => rw [List.any_cons, List.any_cons, ih, isAxisWord, isAxisWord, hw.letter]

/-- The same registers and actions, and related texts left to be read. -/
structure Outcome.Alike (S : Text → Text → Prop) (o o' : Outcome) : Prop where
  machine : o'.machine = o.machine
  actions : o'.actions = o.actions
  rest : S o.rest o'.rest

variable (h : ReadsAlike d S E) {t t' : Text} (ht : S t t') (m : Machine)

include h ht

theorem runMove_alike (send : PerAxis Float → Action) :
    Outcome.Alike S (runMove d send m t) (runMove d send m t') := by
  have taken := h.span (p := isMoveWord) (fun hw => by rw [isMoveWord, isMoveWord, hw.letter]) ht
  have done := takeMoveWords_alike m taken.1
  refine ⟨congrArg Prod.fst done, ?_, taken.2⟩
  simp only [runMove, done, any_isAxisWord_alike taken.1]

theorem runSetting_alike (act : Float → Action) :
    Outcome.Alike S (runSetting d act m t) (runSetting d act m t') := by
  rw [runSetting, runSetting]
  obtain ⟨hv, hv'⟩ | ⟨v, r, r', hv, hv', hr⟩ := h.setting? ht <;> rw [hv, hv']
  · exact ⟨rfl, rfl, ht⟩
  · exact ⟨rfl, rfl, hr⟩

/-- A command does the same before related texts, and leaves related texts. -/
theorem run_alike (c : Command) : Outcome.Alike S (c.run d m t) (c.run d m t') := by
  cases c with
  | rapidMove => exact runMove_alike h ht m .rapidMove
  | coordinatedMove => exact runMove_alike h ht m .coordinatedMove
  | home =>
    have named := h.axisNames ht
    refine ⟨rfl, ?_, named.2⟩
    simp only [run, named.1]
  | rebase =>
    have taken := h.span (p := isAxisWord) (fun hw => by rw [isAxisWord, isAxisWord, hw.letter]) ht
    exact ⟨takeOriginWords_alike m taken.1, rfl, taken.2⟩
  | setTemperature => exact runSetting_alike h ht m .setTemperature
  | setFanSpeed => exact runSetting_alike h ht m .setFanSpeed
  | setTemperatureAndWait =>
    have set := runSetting_alike h ht m .setTemperature
    exact ⟨set.machine, congrArg (· ++ [Action.waitTemperature]) set.actions, set.rest⟩
  | _ => exact ⟨rfl, rfl, ht⟩

omit h ht in
/-- Which command a word names does not depend on the text after it. -/
theorem ofWord?_alike {w w' : Word} (hw : Word.Alike S w w') : ofWord? w' = ofWord? w := by
  rw [ofWord?, ofWord?, hw.letter, hw.value]

end Command

/-! ### Devices -/

/-- Devices that are related by `R` stay so when they are told actions that are alike, and they let
reading go on with related texts. -/
structure Respects {σ : Type} (k : Device σ) (S : Text → Text → Prop) (R : σ → σ → Prop) :
    Prop where
  accept : ∀ {x y : σ} {a a' : Action}, Action.Alike S a a' → R x y →
    R (k.accept a x) (k.accept a' y)
  resume : ∀ {x y : σ} {w w' : Word}, Word.Alike S w w' → R x y →
    Option.Rel S (k.resume w x) (k.resume w' y)

theorem Respects.acceptAll {σ : Type} {k : Device σ} {S : Text → Text → Prop} {R : σ → σ → Prop}
    (h : Respects k S R) {as as' : List Action} (ha : List.Forall₂ (Action.Alike S) as as')
    {x y : σ} (hxy : R x y) : R (k.acceptAll as x) (k.acceptAll as' y) := by
  induction ha generalizing x y with
  | nil => exact hxy
  | cons ha _ ih => exact ih (h.accept ha hxy)

/-- A recorder keeps what it is told, whatever it had kept before. -/
theorem respects_recorder (base : List Action) (S : Text → Text → Prop) :
    Respects recorder S fun x y => AlikeFrom base (Action.Alike S) x.toList y.toList where
  accept {x y a a'} ha hxy := by
    show AlikeFrom base _ (x.push a).toList (y.push a').toList
    rw [Array.toList_push, Array.toList_push]
    exact hxy.concat ha
  resume hw _ := .some hw.rest

/-- The printer knows a code of the bed by its letter and number, and finds the same setting. -/
theorem respects_printer {d : Dialect} {S : Text → Text → Prop} {E : WordError → WordError → Prop}
    (h : ReadsAlike d S E) : Respects (printer d) S Eq where
  accept {p _ a a'} ha := by
    rintro rfl
    cases ha with
    | same => rfl
    | @handOver w w' hw =>
      have bed : Printer.setBed d w'.rest p = Printer.setBed d w.rest p := by
        rw [Printer.setBed, Printer.setBed]
        obtain ⟨hv, hv'⟩ | ⟨v, r, r', hv, hv', hr⟩ := h.setting? hw.rest <;> rw [hv, hv']
      show Printer.takeWord d w p = Printer.takeWord d w' p
      rw [Printer.takeWord, Printer.takeWord, Printer.bedCommand?, Printer.bedCommand?, hw.text,
        bed]
  resume {p _ w w'} hw := by
    rintro rfl
    have bed : S (Printer.afterBed d w.rest) (Printer.afterBed d w'.rest) := by
      rw [Printer.afterBed, Printer.afterBed]
      obtain ⟨hv, hv'⟩ | ⟨v, r, r', hv, hv', hr⟩ := h.setting? hw.rest <;> rw [hv, hv']
      · exact hw.rest
      · exact hr
    have code : Printer.bedCommand? w' = Printer.bedCommand? w := by
      rw [Printer.bedCommand?, Printer.bedCommand?, hw.text]
    refine .some ?_
    rw [Printer.resume, Printer.resume, code]
    cases Printer.bedCommand? w with
    | none => exact hw.rest
    | some => exact bed

/-- So does every device with a use for moves only: it does not look at words. -/
theorem respects_ofMoves {σ : Type} (receive : PerAxis Float → σ → σ)
    (tells : PerAxis Float → List LogEntry) (S : Text → Text → Prop) :
    Respects (Device.ofMoves receive tells) S Eq where
  accept {x _ a a'} ha := by
    rintro rfl
    cases ha with
    | same => rfl
    | handOver => rfl
  resume _ _ := .none

/-! ### Runs -/

/-- Diagnostics for the same line. -/
structure Diagnostic.Alike (E : WordError → WordError → Prop) (g g' : Diagnostic) : Prop where
  line : g'.line = g.line
  cause : E g.cause g'.cause

/-- Two runs with the same registers and counts and, after the diagnostics `before`, with
diagnostics for the same lines; and devices that are related by `R`. -/
structure Alike {σ : Type} (E : WordError → WordError → Prop) (before : List Diagnostic)
    (R : σ → σ → Prop) (i j : Interpreter σ) : Prop where
  machine : j.machine = i.machine
  lineCount : j.lineCount = i.lineCount
  diagnostics :
    AlikeFrom before (Diagnostic.Alike E) i.diagnostics.toList j.diagnostics.toList
  device : R i.device j.device

namespace Alike

variable {σ : Type} {d : Dialect} {k : Device σ} {S : Text → Text → Prop}
  {E : WordError → WordError → Prop} {before : List Diagnostic} {R : σ → σ → Prop}
  {i j : Interpreter σ}

/-- A run begins alike to itself. -/
theorem refl (E : WordError → WordError → Prop) (hi : R i.device i.device) :
    Alike E i.diagnostics.toList R i i :=
  ⟨rfl, rfl, .refl _ _, hi⟩

theorem proceed (h : Alike E before R i j) (hk : Respects k S R) (m : Machine)
    {as as' : List Action} (ha : List.Forall₂ (Action.Alike S) as as') :
    Alike E before R (i.proceed k m as) (j.proceed k m as') :=
  ⟨rfl, h.lineCount, h.diagnostics, hk.acceptAll ha h.device⟩

theorem report (h : Alike E before R i j) {e e' : WordError} (he : E e e') :
    Alike E before R (i.report e) (j.report e') := by
  refine ⟨h.machine, h.lineCount, ?_, h.device⟩
  show AlikeFrom before _ (i.diagnostics.push _).toList (j.diagnostics.push _).toList
  rw [Array.toList_push, Array.toList_push]
  exact h.diagnostics.concat ⟨h.lineCount, he⟩

/-- One word keeps runs alike, and leaves them at related texts or at the end of the line. -/
theorem step (h : Alike E before R i j) (hs : ReadsAlike d S E) (hk : Respects k S R) {w w' : Word}
    (hw : Word.Alike S w w') :
    Alike E before R (i.step d k w).1 (j.step d k w').1 ∧
      Option.Rel S (i.step d k w).2 (j.step d k w').2 := by
  have name := Command.ofWord?_alike hw
  rcases hc : Command.ofWord? w with - | c
  · have number : Interpreter.isLineNumber w' = Interpreter.isLineNumber w := by
      rw [Interpreter.isLineNumber, Interpreter.isLineNumber, hw.letter]
    rcases hl : Interpreter.isLineNumber w with - | -
    · -- any other word is told to the devices, with its text
      rw [Interpreter.step_of_other hc hl,
        Interpreter.step_of_other (name.trans hc) (number.trans hl), h.machine]
      exact ⟨h.proceed hk _ (.cons (.handOver hw) .nil), hk.resume hw h.device⟩
    · rw [Interpreter.step_of_number hc hl,
        Interpreter.step_of_number (name.trans hc) (number.trans hl)]
      exact ⟨h, .some hw.rest⟩
  · rw [Interpreter.step_of_command hc, Interpreter.step_of_command (name.trans hc), h.machine]
    have run := Command.run_alike hs hw.rest i.machine c
    rw [run.machine, run.actions]
    have silent :=
      Action.alike_of_not_handOver (S := S) (Command.isHandOver_run d i.machine w.rest c)
    exact ⟨h.proceed hk _ silent, .some run.rest⟩

/-- The rest of a line. -/
theorem read {i j : Interpreter σ} (h : Alike E before R i j) (hs : ReadsAlike d S E)
    (hk : Respects k S R) {t t' : Text} (ht : S t t') :
    Alike E before R (i.read d k t) (j.read d k t') := by
  cases hs.next ht with
  | none hn hn' =>
    rw [Interpreter.read_of_none hn, Interpreter.read_of_none hn']
    exact h
  | error hn hn' he =>
    rw [Interpreter.read_of_error hn, Interpreter.read_of_error hn']
    exact h.report he
  | @word w w' hn hn' hw =>
    obtain ⟨next, texts⟩ := h.step hs hk hw
    rcases hr : (i.step d k w).2 with - | r <;> rcases hr' : (j.step d k w').2 with - | r' <;>
      rw [hr, hr'] at texts <;> cases texts
    · rw [Interpreter.read_of_stop hn hr, Interpreter.read_of_stop hn' hr']
      exact next
    · next related =>
        have hlt : r.length < t.length :=
          Nat.lt_of_le_of_lt (Interpreter.length_of_step hr) (Word.length_rest_of_next? hn)
        rw [Interpreter.read_of_rest hn hr, Interpreter.read_of_rest hn' hr']
        exact next.read hs hk related
termination_by t.length
decreasing_by exact hlt

theorem readLine (h : Alike E before R i j) (hs : ReadsAlike d S E) (hk : Respects k S R)
    {t t' : Text} (ht : S t t') : Alike E before R (i.readLine d k t) (j.readLine d k t') := by
  have counted : Alike E before R { i with lineCount := i.lineCount + 1 }
      { j with lineCount := j.lineCount + 1 } :=
    ⟨h.machine, congrArg (· + 1) h.lineCount, h.diagnostics, h.device⟩
  exact counted.read hs hk ht

theorem foldl_readLine {i j : Interpreter σ} (h : Alike E before R i j) (hs : ReadsAlike d S E)
    (hk : Respects k S R) {ts ts' : List Text} (ht : List.Forall₂ S ts ts') :
    Alike E before R (ts.foldl (Interpreter.readLine d k) i)
      (ts'.foldl (Interpreter.readLine d k) j) := by
  induction ht generalizing i j with
  | nil => exact h
  | cons ht _ ih => exact ih (h.readLine hs hk ht)

/-- Programs with related lines, read by one interpreter. -/
theorem readLines (hs : ReadsAlike d S E) (hk : Respects k S R) (hi : R i.device i.device)
    {ts ts' : List Text} (ht : List.Forall₂ S ts ts') :
    Alike E [] R (i.readLines d k ts) (i.readLines d k ts') :=
  -- counts and diagnostics begin anew in both
  foldl_readLine (i := { i with lineCount := 0, diagnostics := #[] }) (.refl E hi) hs hk ht

end Alike

end Toolpath
