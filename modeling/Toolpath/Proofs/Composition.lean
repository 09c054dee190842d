/-
Toolpath/Proofs/Composition.lean

Programs that are put together, and programs that are cut in lines in different ways.

The second of two programs that are put together is read as it is after the first one: the machine
and the device are where the first has left them, and only the numbers of its lines go on from those
of the first (`Interpreter.readLines_append`).  In a program each line is counted, and has one
diagnostic at most; so the numbers in the diagnostics increase (`Numbered`).

A program that is given as a text is the program of its lines; and whether the lines come with their
breaks or without makes no difference but for the break itself, at the end of the texts that are
kept or quoted (`readsAlike_upToBreak`).
-/
import Toolpath.Proofs.Alike
import Toolpath.Proofs.Past
import Toolpath.Proofs.Session
import Toolpath.Proofs.Word.Trailing

namespace Toolpath

namespace Interpreter

variable {σ : Type} (d : Dialect) (k : Device σ)

/-! ### Counts -/

theorem step_keeps (i : Interpreter σ) (w : Word) :
    (i.step d k w).1.lineCount = i.lineCount ∧ (i.step d k w).1.diagnostics = i.diagnostics := by
  rcases hc : Command.ofWord? w with - | c
  · by_cases hl : isLineNumber w = true
    · rw [step_of_number hc hl]
      exact ⟨rfl, rfl⟩
    · rw [step_of_other hc (Bool.eq_false_iff.2 hl)]
      exact ⟨rfl, rfl⟩
  · rw [step_of_command hc]
    exact ⟨rfl, rfl⟩

/-- The text of a line is not counted again, and gives one diagnostic for its line, or none. -/
theorem exists_diagnostics_read (i : Interpreter σ) (t : Text) :
    (i.read d k t).lineCount = i.lineCount ∧
      ∃ e : Option WordError, (i.read d k t).diagnostics.toList
        = i.diagnostics.toList ++ e.toList.map (Diagnostic.mk i.lineCount) := by
  induction i, t using read_induction d k with
  | broken i t e hn =>
    rw [read_of_error hn]
    exact ⟨rfl, some e, Array.toList_push⟩
  | finished i t hn =>
    rw [read_of_none hn]
    exact ⟨rfl, none, (List.append_nil _).symm⟩
  | stop i t w hn ht =>
    obtain ⟨count, diagnostics⟩ := step_keeps d k i w
    rw [read_of_stop hn ht, diagnostics]
    exact ⟨count, none, (List.append_nil _).symm⟩
  | goesOn i t w rest hn ht ih =>
    obtain ⟨count, diagnostics⟩ := step_keeps d k i w
    rw [read_of_rest hn ht]
    rwa [count, diagnostics] at ih

theorem lineCount_readLine (i : Interpreter σ) (line : Text) :
    (i.readLine d k line).lineCount = i.lineCount + 1 :=
  (exists_diagnostics_read d k { i with lineCount := i.lineCount + 1 } line).1

theorem lineCount_foldl_readLine (i : Interpreter σ) (lines : List Text) :
    (lines.foldl (readLine d k) i).lineCount = i.lineCount + lines.length := by
  induction lines generalizing i with
  | nil => rfl
  | cons line lines ih =>
    rw [List.foldl_cons, ih, lineCount_readLine, List.length_cons]
    omega

/-- All lines of a program are counted. -/
theorem lineCount_readLines (i : Interpreter σ) (lines : List Text) :
    (i.readLines d k lines).lineCount = lines.length :=
  (lineCount_foldl_readLine d k _ lines).trans (Nat.zero_add _)

/-! ### The numbers in the diagnostics -/

/-- The diagnostics have increasing numbers, each the number of a line that was read. -/
structure Numbered (i : Interpreter σ) : Prop where
  increasing : (i.diagnostics.toList.map Diagnostic.line).Pairwise (· < ·)
  counted : ∀ g ∈ i.diagnostics.toList, 1 ≤ g.line ∧ g.line ≤ i.lineCount

variable {d k} in
theorem Numbered.readLine {i : Interpreter σ} (h : Numbered i) (line : Text) :
    Numbered (i.readLine d k line) := by
  obtain ⟨-, e, he⟩ :=
    exists_diagnostics_read d k { i with lineCount := i.lineCount + 1 } line
  change (i.readLine d k line).diagnostics.toList
    = i.diagnostics.toList ++ e.toList.map (Diagnostic.mk (i.lineCount + 1)) at he
  have number : ∀ g ∈ e.toList.map (Diagnostic.mk (i.lineCount + 1)),
      g.line = i.lineCount + 1 := by
    intro g hg
    obtain ⟨cause, -, rfl⟩ := List.mem_map.1 hg
    rfl
  refine ⟨?_, ?_⟩
  · rw [he, List.map_append, List.pairwise_append]
    refine ⟨h.increasing, ?_, ?_⟩
    · cases e with
      | none => exact .nil
      | some e => exact List.pairwise_singleton _ _
    · -- the number of the line is greater than all before
      intro m hm n hn
      obtain ⟨g, hg, rfl⟩ := List.mem_map.1 hm
      obtain ⟨g', hg', rfl⟩ := List.mem_map.1 hn
      have := (h.counted g hg).2
      have := number g' hg'
      omega
  · intro g hg
    rw [lineCount_readLine]
    rcases List.mem_append.1 (he ▸ hg) with hg | hg
    · have := h.counted g hg
      omega
    · have := number g hg
      omega

theorem numbered_readLines (i : Interpreter σ) (lines : List Text) :
    Numbered (i.readLines d k lines) := by
  have begin : Numbered { i with lineCount := 0, diagnostics := #[] } :=
    ⟨.nil, List.forall_mem_nil _⟩
  rw [readLines]
  generalize { i with lineCount := 0, diagnostics := #[] } = j at begin ⊢
  induction lines generalizing j with
  | nil => exact begin
  | cons line lines ih => exact ih _ (begin.readLine line)

/-! ### One program after the other -/

/-- Two programs that are put together are read as the one and then the other. -/
theorem readLines_append (i : Interpreter σ) (lines more : List Text) :
    let p := i.readLines d k lines
    let q := p.readLines d k more
    let both := i.readLines d k (lines ++ more)
    both.machine = q.machine ∧ both.device = q.device ∧
      both.lineCount = p.lineCount + q.lineCount ∧
      both.diagnostics = p.diagnostics ++ q.diagnostics.map (Diagnostic.later p.lineCount) := by
  intro p q both
  have together : both = _ := readLines_append_eq_withPast d k i lines more
  have afterwards : q = _ := readLines_eq_withPast d k p more
  rw [together, afterwards]
  -- the same lines are read afresh, once behind the first program and once on their own
  simp [withPast, p]

/-- A recording goes on with every program. -/
theorem exists_toList_readLines_recorder (i : Interpreter Recording) (lines : List Text) :
    ∃ as, (i.readLines d recorder lines).device.toList = i.device.toList ++ as := by
  have grows : Traced d recorder fun _ s _ => ∃ as, s.toList = i.device.toList ++ as := by
    constructor
    · rintro m s log c t ⟨as, has⟩
      refine ⟨as ++ (c.run d m t).actions, ?_⟩
      rw [toList_acceptAll_recorder, has, List.append_assoc]
    · rintro m s log w - - ⟨as, has⟩
      refine ⟨as ++ [.handOver w], ?_⟩
      rw [← List.append_assoc, ← has]
      exact Array.toList_push
  exact grows.readLines ⟨[], (List.append_nil _).symm⟩ lines

end Interpreter

/-- Programs compose, and a program is the same however its lines are given.

Two programs that are put together record the actions of the first and then those that the second
records when it is read next; they lead to the same machine, their lines are counted together, and
the diagnostics are those of the first and then those of the second, with their line numbers
increased by the length of the first.  In each program the numbers increase, and each is that of a
line.

A text, its lines and its lines with their breaks are the same program: the count and the machine
are the same, and so are the actions and the diagnostics, up to a line break at the end of the texts
that are handed over or quoted. -/
theorem programs_compose (d : Dialect) (i : Interpreter Recording) :
    (∀ lines more : List Text,
      let p := i.readLines d recorder lines
      let q := p.readLines d recorder more
      let both := i.readLines d recorder (lines ++ more)
      both.machine = q.machine ∧ both.device = q.device ∧
        (∃ as bs, p.device.toList = i.device.toList ++ as ∧
          q.device.toList = p.device.toList ++ bs ∧
          both.device.toList = i.device.toList ++ (as ++ bs)) ∧
        both.lineCount = p.lineCount + q.lineCount ∧
        both.diagnostics = p.diagnostics ++ q.diagnostics.map (Diagnostic.later lines.length)) ∧
      (∀ lines : List Text,
        let p := i.readLines d recorder lines
        (p.diagnostics.toList.map Diagnostic.line).Pairwise (· < ·) ∧
          ∀ g ∈ p.diagnostics, 1 ≤ g.line ∧ g.line ≤ lines.length) ∧
      ∀ text : Text,
        let whole := i.readProgram d recorder text
        let cut := i.readLines d recorder (Text.lines text)
        let kept := i.readLines d recorder (Text.linesWithBreaks text)
        whole = cut ∧ kept.lineCount = whole.lineCount ∧ kept.machine = whole.machine ∧
          (∃ as as', whole.device.toList = i.device.toList ++ as ∧
            kept.device.toList = i.device.toList ++ as' ∧
            List.Forall₂ (Action.Alike UpToBreak) as as') ∧
          List.Forall₂ (Diagnostic.Alike (WordError.Alike UpToBreak)) whole.diagnostics.toList
            kept.diagnostics.toList := by
  refine ⟨fun lines more => ?_, fun lines => ?_, fun text => ?_⟩
  · intro p q both
    obtain ⟨machine, device, count, diagnostics⟩ :=
      Interpreter.readLines_append d recorder i lines more
    obtain ⟨as, has⟩ := Interpreter.exists_toList_readLines_recorder d i lines
    obtain ⟨bs, hbs⟩ := Interpreter.exists_toList_readLines_recorder d p more
    rw [Interpreter.lineCount_readLines d recorder i lines] at diagnostics
    refine ⟨machine, device, ⟨as, bs, has, hbs, ?_⟩, count, diagnostics⟩
    show both.device.toList = _
    rw [show both.device = q.device from device, hbs, has, List.append_assoc]
  · have numbered := Interpreter.numbered_readLines d recorder i lines
    rw [← Interpreter.lineCount_readLines d recorder i lines]
    exact ⟨numbered.increasing, fun g hg => numbered.counted g (Array.mem_toList_iff.2 hg)⟩
  · have run := Alike.readLines (i := i) (readsAlike_upToBreak d) (respects_recorder _ UpToBreak)
      (.refl _ _) (upToBreak_lines text)
    obtain ⟨gs, gs', hgs, hgs', alike⟩ := run.diagnostics
    rw [List.nil_append] at hgs hgs'
    exact ⟨rfl, run.lineCount, run.machine, run.device, hgs ▸ hgs' ▸ alike⟩

end Toolpath
