/-
Toolpath/Proofs/Failure.lean

Reading with everything in it that could go wrong.  The reader of lines has a result for every line,
which its type says already; but that does not say why nothing goes wrong on the way.  So the reader
is written here once more as a computation that can fail: in a broken word with which nobody deals,
in a text that is taken for a number and is none, in the integer part of a number that has none, and
in a loop that goes on after as many rounds as it was given (`Failure`).  It looks ahead and lets
a broken word be, it passes broken words after a `G28`, and it reports one where a command could
begin; and it asks for an integer part where the number is finite.

It never fails, and it comes to what the reader comes to (`readWithin_eq`, `reading_ends`).  A loop
over words needs no more rounds than there are characters, since each word is a letter and a digit
at least, and the loop of a `G28` neither, since a broken word is a letter at least; and the line
needs half as many words as it has characters.  For this a device must not give back more text than
was left.
-/
import Toolpath.Device.Announcer
import Toolpath.Device.Printer
import Toolpath.Device.Recorder
import Toolpath.Proofs.Course
import Toolpath.Proofs.Double.WholePart
import Toolpath.Proofs.Numeral.Grammar

namespace Toolpath

/-- What could go wrong while a line is read. -/
inductive Failure
  /-- A word is broken, and nobody deals with it. -/
  | broken (e : WordError)
  /-- A text is taken for a number that is no numeral. -/
  | noNumber (t : Text)
  /-- The integer part is asked for of a number that has none. -/
  | noInteger (x : Float)
  /-- A loop goes on after as many rounds as it was given. -/
  | endless

/-! ### Words -/

/-- The number that a text spells, where another text than a numeral is a failure. -/
def Numeral.attemptValue (t : Text) : Except Failure Float :=
  if split? t = some (t, []) then .ok (value t) else .error (.noNumber t)

namespace Word

variable (d : Dialect) (p : Word → Bool)

/-- The word of a letter, where a broken one is a failure. -/
def attemptOfLetter (letter t : Text) : Except Failure Word :=
  if t = [] then
    throw (.broken (.missingValue letter))
  else
    match Numeral.split? (numberSpan t) with
    | none => throw (.broken (.invalidNumber letter t))
    | some (numeral, _) => do
      return ⟨letter, ← Numeral.attemptValue numeral, Text.trimStart (t.drop numeral.length)⟩

/-- The next word, where a broken one is a failure. -/
def attempt (t : Text) : Except Failure (Option Word) :=
  match Text.trimStart t with
  | [] => return none
  | c :: after =>
    if c ∈ d.lineEnds ∨ Text.upperChar c = d.checksumMark then
      return none
    else do
      return some (← attemptOfLetter (Text.upperChar c) (Text.trimStart after))

/-- The next word, where a broken one is let be. -/
def peek (t : Text) : Except Failure (Option Word) :=
  tryCatch (attempt d t) fun
    | .broken _ => .ok none
    | f => .error f

/-- The words at the front of a text as far as they all satisfy `p`, in so many rounds. -/
def spanWithin : Nat → Text → Except Failure (List Word × Text)
  | 0, _ => .error .endless
  | n + 1, t => do
    match ← peek d t with
    | some w =>
      if p w then
        let more ← spanWithin n w.rest
        return (w :: more.1, more.2)
      else
        return ([], t)
    | none => return ([], t)

/-- The number of a word with the letter `S` at the front of a text. -/
def attemptSetting (t : Text) : Except Failure (Option (Float × Text)) := do
  match ← peek d t with
  | some w => return if w.letter = ['S'] then some (w.value, w.rest) else none
  | none => return none

/-- The letter at the front of a text and the text after it, be the word with this letter broken or
not. -/
def attemptLetter (t : Text) : Except Failure (Option (Text × Text)) :=
  tryCatch (do return (← attempt d t).map fun w => (w.letter, w.rest)) fun
    | .broken e => .ok (some (e.letter, e.rest))
    | f => .error f

/-- The axes named at the front of a text, in so many rounds. -/
def axisNamesWithin : Nat → Text → Except Failure (List Axis × Text)
  | 0, _ => .error .endless
  | n + 1, t => do
    match ← attemptLetter d t with
    | some (letter, rest) =>
      match Axis.ofLetter? letter with
      | some i =>
        let more ← axisNamesWithin n rest
        return (i :: more.1, more.2)
      | none => return ([], t)
    | none => return ([], t)

end Word

/-! ### Commands -/

namespace Command

variable (d : Dialect)

/-- The integer part of a double, where the special values are a failure. -/
def attemptInteger (x : Float) : Except Failure Int :=
  match integerPart? x with
  | some n => .ok n
  | none => .error (.noInteger x)

/-- The command that a word names.  The integer part is asked for where the letter can begin
a command and the number is finite. -/
def attemptOfWord (w : Word) : Except Failure (Option Command) :=
  match w.letter with
  | [c] =>
    if (c = 'G' ∨ c = 'M') ∧ w.value.isFinite then do
      return ofCode? c (← attemptInteger w.value)
    else
      return none
  | _ => return none

def moveWithin (n : Nat) (send : PerAxis Float → Action) (m : Machine) (t : Text) :
    Except Failure Outcome := do
  let taken ← Word.spanWithin d isMoveWord n t
  let done := takeMoveWords m taken.1
  let moves := if taken.1.any isAxisWord then [send done.1.position] else []
  return ⟨done.1, done.2 ++ moves, taken.2⟩

def attemptSetting (act : Float → Action) (m : Machine) (t : Text) : Except Failure Outcome := do
  match ← Word.attemptSetting d t with
  | some (v, rest) => return ⟨m, [act v], rest⟩
  | none => return ⟨m, [], t⟩

/-- A command run with loops of so many rounds.  Most commands read no word and have no loop. -/
def runWithin (n : Nat) (m : Machine) (t : Text) : Command → Except Failure Outcome
  | .rapidMove => moveWithin d n .rapidMove m t
  | .coordinatedMove => moveWithin d n .coordinatedMove m t
  | .home => do
    let named ← Word.axisNamesWithin d n t
    let axes := if named.1 = [] then AxisSet.full else AxisSet.ofList named.1
    return ⟨m.home, [.goHome axes], named.2⟩
  | .rebase => do
    let taken ← Word.spanWithin d isAxisWord n t
    return ⟨takeOriginWords m taken.1, [], taken.2⟩
  | .setTemperature => attemptSetting d .setTemperature m t
  | .setFanSpeed => attemptSetting d .setFanSpeed m t
  | .setTemperatureAndWait => do
    let set ← attemptSetting d .setTemperature m t
    return { set with actions := set.actions ++ [.waitTemperature] }
  | c => return c.run d m t

end Command

/-- The text with which the printer lets reading go on.  It looks for the temperature of the bed by
itself. -/
def Printer.attemptResume (d : Dialect) (w : Word) : Except Failure Text :=
  match bedCommand? w with
  | some _ => do
    match ← Word.attemptSetting d w.rest with
    | some (_, rest) => return rest
    | none => return w.rest
  | none => return w.rest

/-! ### Lines -/

namespace Interpreter

variable {σ : Type} (d : Dialect) (k : Device σ)

/-- One word of a line, with loops of so many rounds. -/
def stepWithin (rounds : Nat) (i : Interpreter σ) (w : Word) :
    Except Failure (Interpreter σ × Option Text) := do
  match ← Command.attemptOfWord w with
  | some c =>
    let o ← c.runWithin d rounds i.machine w.rest
    return (i.settle k o, some o.rest)
  | none =>
    if isLineNumber w then
      return (i, some w.rest)
    else
      return (i.emit k (.handOver w), k.resume w i.device)

/-- The text of a line, with so many words in it that are not the parameters of others, and with
loops of so many rounds. -/
def readWithin (rounds : Nat) (words : Nat) (i : Interpreter σ) (t : Text) :
    Except Failure (Interpreter σ) :=
  match Word.attempt d t with
  | .error (.broken e) => return i.report e
  | .error f => throw f
  | .ok none => return i
  | .ok (some w) =>
    match words with
    | 0 => throw .endless
    | words + 1 => do
      match ← stepWithin d k rounds i w with
      | (i, none) => return i
      | (i, some rest) => readWithin rounds words i rest

end Interpreter

/-! ### Nothing goes wrong in the words -/

/-- What was taken for a numeral is one. -/
theorem Numeral.attemptValue_of_split? {t p r : Text} (h : split? t = some (p, r)) :
    attemptValue p = .ok (value p) := by
  have taken := longestPrefix_of_split? h
  have whole : LongestPrefix language p p :=
    ⟨List.prefix_rfl, taken.mem, fun q hq => taken.longest q (hq.trans taken.isPrefix)⟩
  rw [attemptValue, if_pos (split?_eq_some_iff.2 ⟨whole, List.append_nil p⟩)]

namespace Word

variable {d : Dialect} {t : Text}

theorem attemptOfLetter_eq (letter t : Text) :
    attemptOfLetter letter t = (ofLetter letter t).mapError Failure.broken := by
  rw [attemptOfLetter, ofLetter]
  split
  · rfl
  · rcases hs : Numeral.split? (numberSpan t) with - | ⟨numeral, r⟩
    · rfl
    · simp only [Numeral.attemptValue_of_split? hs]
      rfl

theorem attempt_eq (d : Dialect) (t : Text) :
    attempt d t = (next? d t).mapError Failure.broken := by
  rw [attempt, next?]
  rcases Text.trimStart t with - | ⟨c, after⟩
  · rfl
  · simp only [attemptOfLetter_eq]
    split
    · rfl
    · rcases ofLetter (Text.upperChar c) (Text.trimStart after) with e | w <;> rfl

theorem attempt_of_ok {w : Option Word} (h : next? d t = .ok w) : attempt d t = .ok w := by
  rw [attempt_eq, h]
  rfl

theorem attempt_of_error {e : WordError} (h : next? d t = .error e) :
    attempt d t = .error (.broken e) := by
  rw [attempt_eq, h]
  rfl

theorem peek_of_word {w : Word} (h : next? d t = .ok (some w)) : peek d t = .ok (some w) := by
  rw [peek, attempt_of_ok h]
  rfl

/-- Nothing is seen at the end of the text, and nothing in a broken word. -/
theorem peek_of_stop (h : ∀ w, next? d t ≠ .ok (some w)) : peek d t = .ok none := by
  rcases hn : next? d t with e | - | w
  · rw [peek, attempt_of_error hn]
    rfl
  · rw [peek, attempt_of_ok hn]
    rfl
  · exact absurd hn (h w)

/-- Each word that is taken leaves less text, so the rounds do not run out. -/
theorem spanWithin_eq {p : Word → Bool} {n : Nat} (ht : t.length < n) :
    spanWithin d p n t = .ok (span d p t) := by
  induction n generalizing t with
  | zero => omega
  | succ n ih =>
    rw [spanWithin]
    by_cases hn : ∃ w, next? d t = .ok (some w)
    · obtain ⟨w, hn⟩ := hn
      have shorter := length_rest_of_next? hn
      rw [peek_of_word hn]
      by_cases hp : p w = true
      · have more := ih (t := w.rest) (by omega)
        simp only [bind, Except.bind, if_pos hp, more, span_of_word hn hp]
        rfl
      · have stop : span d p t = ([], t) := by
          refine span_of_stop fun w' hn' => ?_
          obtain rfl := Option.some.inj (Except.ok.inj (hn.symm.trans hn'))
          exact Bool.eq_false_iff.2 hp
        simp only [bind, Except.bind, if_neg hp, stop]
        rfl
    · have none : ∀ w, next? d t ≠ .ok (some w) := fun w hw => hn ⟨w, hw⟩
      rw [peek_of_stop none, span_of_stop fun w hw => absurd hw (none w)]
      rfl

theorem attemptSetting_eq (d : Dialect) (t : Text) :
    attemptSetting d t = .ok (setting? d t) := by
  rw [attemptSetting]
  by_cases hn : ∃ w, next? d t = .ok (some w)
  · obtain ⟨w, hn⟩ := hn
    rw [peek_of_word hn, setting?_of_word hn]
    rfl
  · have none : ∀ w, next? d t ≠ .ok (some w) := fun w hw => hn ⟨w, hw⟩
    rw [peek_of_stop none, setting?_of_stop fun w hw => absurd hw (none w)]
    rfl

/-- A letter is found unless the text is at its end, and then less text is left, be the word with
this letter broken or not; whether an axis is named depends on the letter alone. -/
theorem attemptLetter_cases (d : Dialect) (t : Text) :
    (attemptLetter d t = .ok none ∧ axisNames d t = ([], t)) ∨
      ∃ letter rest, attemptLetter d t = .ok (some (letter, rest)) ∧ rest.length < t.length ∧
        (Axis.ofLetter? letter = none → axisNames d t = ([], t)) ∧
        ∀ i, Axis.ofLetter? letter = some i →
          axisNames d t = (i :: (axisNames d rest).1, (axisNames d rest).2) := by
  rcases hn : next? d t with e | - | w
  · refine .inr ⟨e.letter, e.rest, ?_, length_rest_of_next?_error hn, fun hi => ?_,
      fun i hi => axisNames_of_error hn hi⟩
    · rw [attemptLetter, attempt_of_error hn]
      rfl
    · refine axisNames_of_stop (fun w hw => ?_) fun e' he => ?_
      · cases hn.symm.trans hw
      · obtain rfl := Except.error.inj (hn.symm.trans he)
        exact hi
  · refine .inl ⟨?_, axisNames_of_stop (fun w hw => ?_) fun e he => ?_⟩
    · rw [attemptLetter, attempt_of_ok hn]
      rfl
    · cases hn.symm.trans hw
    · cases hn.symm.trans he
  · refine .inr ⟨w.letter, w.rest, ?_, length_rest_of_next? hn, fun hi => ?_,
      fun i hi => axisNames_of_word hn hi⟩
    · rw [attemptLetter, attempt_of_ok hn]
      rfl
    · refine axisNames_of_stop (fun w' hw => ?_) fun e he => ?_
      · obtain rfl := Option.some.inj (Except.ok.inj (hn.symm.trans hw))
        exact hi
      · cases hn.symm.trans he

theorem axisNamesWithin_eq {n : Nat} (ht : t.length < n) :
    axisNamesWithin d n t = .ok (axisNames d t) := by
  induction n generalizing t with
  | zero => omega
  | succ n ih =>
    rw [axisNamesWithin]
    rcases attemptLetter_cases d t with ⟨stop, names⟩ | ⟨letter, rest, found, shorter, other, axis⟩
    · rw [stop, names]
      rfl
    · rcases hi : Axis.ofLetter? letter with - | i
      · simp only [found, bind, Except.bind, hi, other hi]
        rfl
      · have more := ih (t := rest) (by omega)
        simp only [found, bind, Except.bind, hi, more, axis i hi]
        rfl

/-- A word is two characters at least. -/
theorem two_mul_length_readAll_le (d : Dialect) (t : Text) :
    2 * (readAll d t).1.length ≤ t.length := by
  rcases hn : next? d t with e | - | w
  · rw [readAll_of_error hn]
    exact Nat.zero_le _
  · rw [readAll_of_none hn]
    exact Nat.zero_le _
  · have shorter := (rest_of_next? hn).2
    have more := two_mul_length_readAll_le d w.rest
    rw [readAll_of_word hn, List.length_cons]
    omega
termination_by t.length
decreasing_by exact length_rest_of_next? hn

end Word

/-! ### Nothing goes wrong in the commands -/

namespace Command

variable {d : Dialect} {m : Machine} {t : Text} {n : Nat}

theorem attemptInteger_of_isFinite {x : Float} (h : x.isFinite = true) :
    ∃ n, integerPart? x = some n ∧ attemptInteger x = .ok n := by
  rw [← isSome_integerPart?] at h
  obtain ⟨n, hn⟩ := Option.isSome_iff_exists.1 h
  exact ⟨n, hn, by rw [attemptInteger, hn]⟩

/-- The letters of commands are G and M. -/
theorem ofCode?_eq_none_of_letter {c : Char} (h : ¬(c = 'G' ∨ c = 'M')) (n : Int) :
    ofCode? c n = none := by
  refine Option.eq_none_iff_forall_ne_some.2 fun command hc => h ?_
  have code := ofCode?_eq_some_iff.1 hc
  have letter : command.code.1 = 'G' ∨ command.code.1 = 'M' := by
    cases command <;> decide
  rwa [code] at letter

/-- The integer part is asked for where there is one, and it is not missed where it is not asked
for. -/
theorem attemptOfWord_eq (w : Word) : attemptOfWord w = .ok (ofWord? w) := by
  rw [attemptOfWord, ofWord?]
  rcases hl : w.letter with - | ⟨c, - | ⟨c', more⟩⟩
  · rfl
  · by_cases guard : (c = 'G' ∨ c = 'M') ∧ w.value.isFinite = true
    · obtain ⟨n, hn, attempt⟩ := attemptInteger_of_isFinite guard.2
      simp only [if_pos guard, attempt, hn]
      rfl
    · simp only [if_neg guard]
      by_cases finite : w.value.isFinite = true
      · obtain ⟨n, hn, -⟩ := attemptInteger_of_isFinite finite
        simp only [hn, ofCode?_eq_none_of_letter fun letter => guard ⟨letter, finite⟩]
        rfl
      · rw [← isSome_integerPart?, Option.not_isSome_iff_eq_none] at finite
        simp only [finite]
        rfl
  · rfl

theorem attemptSetting_eq (act : Float → Action) :
    attemptSetting d act m t = .ok (runSetting d act m t) := by
  rw [attemptSetting, Word.attemptSetting_eq, runSetting]
  rcases Word.setting? d t with - | set <;> rfl

theorem moveWithin_eq (send : PerAxis Float → Action) (ht : t.length < n) :
    moveWithin d n send m t = .ok (runMove d send m t) := by
  rw [moveWithin, Word.spanWithin_eq ht]
  rfl

/-- No command fails, and none goes on for longer than its text is. -/
theorem runWithin_eq (c : Command) (ht : t.length < n) :
    c.runWithin d n m t = .ok (c.run d m t) := by
  cases c with
  | rapidMove => exact moveWithin_eq .rapidMove ht
  | coordinatedMove => exact moveWithin_eq .coordinatedMove ht
  | home =>
    rw [runWithin, Word.axisNamesWithin_eq ht]
    rfl
  | rebase =>
    rw [runWithin, Word.spanWithin_eq ht]
    rfl
  | setTemperature => exact attemptSetting_eq .setTemperature
  | setFanSpeed => exact attemptSetting_eq .setFanSpeed
  | setTemperatureAndWait =>
    rw [runWithin, attemptSetting_eq]
    rfl
  | _ => rfl

end Command

theorem Printer.attemptResume_eq (d : Dialect) (w : Word) :
    attemptResume d w = .ok (resume d w) := by
  rw [attemptResume, resume, Word.attemptSetting_eq]
  rcases bedCommand? w with - | bed
  · rfl
  · rw [afterBed]
    rcases Word.setting? d w.rest with - | set <;> rfl

/-! ### Nothing goes wrong in the lines -/

namespace Interpreter

variable {σ : Type} {d : Dialect} {k : Device σ}

theorem stepWithin_eq {rounds : Nat} {w : Word} (i : Interpreter σ)
    (hw : w.rest.length < rounds) : i.stepWithin d k rounds w = .ok (i.step d k w) := by
  rw [stepWithin, step, Command.attemptOfWord_eq]
  rcases Command.ofWord? w with - | c
  · by_cases number : isLineNumber w = true
    · simp only [bind, Except.bind, if_pos number]
      rfl
    · simp only [bind, Except.bind, if_neg number]
      rfl
  · simp only [bind, Except.bind, Command.runWithin_eq c hw]
    rfl

/-- A line is read to its end, with rounds for all its characters and half as many words. -/
theorem readWithin_eq {rounds words : Nat} {t : Text} (i : Interpreter σ)
    (hr : t.length < rounds) (hw : t.length ≤ 2 * words + 1) :
    i.readWithin d k rounds words t = .ok (i.read d k t) := by
  induction words generalizing i t with
  | zero =>
    rw [readWithin]
    rcases hn : Word.next? d t with e | - | w
    · rw [Word.attempt_of_error hn, read_of_error hn]
      rfl
    · rw [Word.attempt_of_ok hn, read_of_none hn]
      rfl
    · have shorter := (Word.rest_of_next? hn).2
      omega
  | succ words ih =>
    rw [readWithin]
    rcases hn : Word.next? d t with e | - | w
    · rw [Word.attempt_of_error hn, read_of_error hn]
      rfl
    · rw [Word.attempt_of_ok hn, read_of_none hn]
      rfl
    · have shorter := (Word.rest_of_next? hn).2
      have step : i.stepWithin d k rounds w = .ok (i.step d k w) := stepWithin_eq i (by omega)
      simp only [Word.attempt_of_ok hn, step, bind, Except.bind]
      rcases hs : i.step d k w with ⟨j, - | rest⟩
      · rw [read_of_stop hn (congrArg Prod.snd hs), hs]
        rfl
      · have left := length_of_step (congrArg Prod.snd hs)
        rw [read_of_rest hn (congrArg Prod.snd hs), hs]
        exact ih j (by omega) (by omega)

end Interpreter

/-! ### Reading ends -/

/-- Reading comes to an end and never goes wrong.  A word leaves an end of the text that is at least
two characters shorter, and a broken word one that is at least one character shorter; a command does
not fail and leaves an end of its text.  So a text has at most half as many words as characters, and
with every device, whatever text it gives back that is no longer than what was left, a line is read
without a failure after at most half as many words as it has characters.  The recorder, the device
that only announces and the printer go on with an end of the text after the word, or with none. -/
theorem reading_ends (d : Dialect) :
    (∀ (t : Text) (w : Word), Word.next? d t = .ok (some w) →
        w.rest <:+ t ∧ w.rest.length + 2 ≤ t.length) ∧
      (∀ (t : Text) (e : WordError), Word.next? d t = .error e →
        e.rest <:+ t ∧ e.rest.length + 1 ≤ t.length) ∧
      (∀ (c : Command) (m : Machine) (t : Text),
        c.runWithin d (t.length + 1) m t = .ok (c.run d m t) ∧ (c.run d m t).rest <:+ t) ∧
      (∀ t : Text, (Word.readAll d t).1.length ≤ t.length / 2) ∧
      (∀ (σ : Type) (k : Device σ) (i : Interpreter σ) (line : Text),
        Interpreter.readWithin d k (line.length + 1) (line.length / 2)
            { i with lineCount := i.lineCount + 1 } line
          = .ok (i.readLine d k line)) ∧
      (∀ (w : Word) (s : Recording), recorder.resume w s = some w.rest) ∧
      (∀ (w : Word) (s : Unit), announcer.resume w s = none) ∧
      ∀ (w : Word) (s : Printer), ∃ rest,
        Printer.attemptResume d w = .ok rest ∧ (printer d).resume w s = some rest ∧
          rest <:+ w.rest := by
  refine ⟨fun t w => Word.rest_of_next?, fun t e => Word.rest_of_next?_error,
    fun c m t => ⟨Command.runWithin_eq c (Nat.lt_succ_self _), Command.rest_suffix d m t c⟩,
    fun t => ?_, fun σ k i line => ?_, fun w s => rfl, fun w s => rfl,
    fun w s => ⟨_, Printer.attemptResume_eq d w, rfl, Printer.resume_suffix d w⟩⟩
  · have count := Word.two_mul_length_readAll_le d t
    omega
  · exact Interpreter.readWithin_eq _ (Nat.lt_succ_self _) (by omega)

/-- A `G28` that passes a broken word, a code that is infinite and a letter without a number: the
line is read, with rounds for its seventeen characters and no more than eight words. -/
theorem reading_ends_in_bad_line :
    let line : Text := "G28 X Y0 G1e999 M".toList
    let bare : Text := "X Y0 G1e999 M".toList
    (Word.next? {} line = .ok (some ⟨['G'], 28.0, bare⟩) ∧ bare.length + 2 ≤ line.length) ∧
      (Word.next? {} bare = .error (.invalidNumber ['X'] "Y0 G1e999 M".toList) ∧
        "Y0 G1e999 M".toList.length + 1 ≤ bare.length) ∧
      Interpreter.readWithin {} recorder 18 8
          { Interpreter.start {} #[] with lineCount := 1 } line
        = .ok ((Interpreter.start {} #[]).readLine {} recorder line) := by
  obtain ⟨word, broken, -, -, reads, -⟩ := reading_ends {}
  have first : Word.next? {} "G28 X Y0 G1e999 M".toList
      = .ok (some ⟨['G'], 28.0, "X Y0 G1e999 M".toList⟩) := by rfl
  have second : Word.next? {} "X Y0 G1e999 M".toList
      = .error (.invalidNumber ['X'] "Y0 G1e999 M".toList) := by rfl
  exact ⟨⟨first, (word _ _ first).2⟩, ⟨second, (broken _ _ second).2⟩,
    reads _ recorder (Interpreter.start {} #[]) "G28 X Y0 G1e999 M".toList⟩

end Toolpath
