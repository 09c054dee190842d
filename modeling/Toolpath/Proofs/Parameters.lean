/-
Toolpath/Proofs/Parameters.lean

What the parameters of a command leave, in closed form.  They are taken one by one, feed rates and
axes as they come; yet each register depends on the words for it alone.  The feed rate goes by the
words with an `F` (`takeMoveWords_feed`), and an axis by the words with its letter: their values
lead it one after the other, and if it reads positions absolutely only the last of them counts
(`get_position_takeMoveWords`).  The origin of an axis goes by the last word for it
(`get_origin_takeOriginWords_eq`).

So words that are the same for each register lead to the same registers and the same actions
(`takeMoveWords_congr`, `takeOriginWords_congr`).
-/
import Toolpath.Proofs.FeedRate
import Toolpath.Proofs.Registers

namespace Toolpath

attribute [ext] Machine

/-- Where the values `vs`, in the unit in force, lead the axis `i` one after the other. -/
def Machine.follow (m : Machine) (i : Axis) (vs : List Float) : Float :=
  vs.foldl (fun x v =>
    if m.absolute.get i then m.origin.get i + v * m.unitScale else x + v * m.unitScale)
    (m.position.get i)

namespace Machine

variable (m : Machine) (i : Axis) (vs : List Float)

/-- An axis that reads positions absolutely is where the last value leads it. -/
theorem follow_of_absolute (h : m.absolute.get i = true) :
    m.follow i vs
      = (vs.getLast?.map fun v => m.origin.get i + v * m.unitScale).getD (m.position.get i) := by
  rw [follow]
  simp only [if_pos h]
  generalize m.position.get i = x
  induction vs generalizing x with
  | nil => rfl
  | cons v vs ih =>
    rw [List.foldl_cons, ih, List.getLast?_cons]
    cases vs.getLast? <;> rfl

/-- One that reads distances has gone all of them. -/
theorem follow_of_relative (h : m.absolute.get i = false) :
    m.follow i vs = vs.foldl (fun x v => x + v * m.unitScale) (m.position.get i) := by
  rw [follow]
  simp only [h, Bool.false_eq_true, if_false]

end Machine

namespace Command

/-! ### Words for one register -/

/-- Whether a word gives a feed rate. -/
def isFeedWord (w : Word) : Bool :=
  w.letter = ['F']

/-- Whether a word is for the axis `i`. -/
def isWordFor (i : Axis) (w : Word) : Bool :=
  Axis.ofLetter? w.letter = some i

/-- The values of the words that satisfy `q`, in order. -/
def valuesOf (q : Word → Bool) (ws : List Word) : List Float :=
  (ws.filter q).map Word.value

theorem valuesOf_cons (q : Word → Bool) (w : Word) (ws : List Word) :
    valuesOf q (w :: ws) = if q w then w.value :: valuesOf q ws else valuesOf q ws := by
  rw [valuesOf, List.filter_cons]
  split <;> rfl

theorem valuesOf_append (q : Word → Bool) (us ws : List Word) :
    valuesOf q (us ++ ws) = valuesOf q us ++ valuesOf q ws := by
  rw [valuesOf, List.filter_append, List.map_append]
  rfl

theorem isWordFor_eq_false_of_isFeedWord {w : Word} (h : isFeedWord w = true) (i : Axis) :
    isWordFor i w = false := by
  have noAxis : Axis.ofLetter? ['F'] = none := by decide
  rw [isWordFor, of_decide_eq_true h, noAxis]
  rfl

/-- An axis is among the words just when one of the axes has a value. -/
theorem any_isAxisWord_iff (ws : List Word) :
    ws.any isAxisWord = true ↔ ∃ i, valuesOf (isWordFor i) ws ≠ [] := by
  rw [List.any_eq_true]
  constructor
  · rintro ⟨w, hw, axis⟩
    obtain ⟨i, hi⟩ := Option.isSome_iff_exists.1 axis
    refine ⟨i, List.ne_nil_of_mem (a := w.value) (List.mem_map_of_mem ?_)⟩
    exact List.mem_filter.2 ⟨hw, decide_eq_true hi⟩
  · rintro ⟨i, hi⟩
    obtain ⟨v, hv⟩ := List.exists_mem_of_ne_nil _ hi
    obtain ⟨w, hw, -⟩ := List.mem_map.1 hv
    obtain ⟨hm, hf⟩ := List.mem_filter.1 hw
    exact ⟨w, hm, Option.isSome_iff_exists.2 ⟨i, of_decide_eq_true hf⟩⟩

theorem any_isAxisWord_congr {us ws : List Word}
    (h : ∀ i, valuesOf (isWordFor i) us = valuesOf (isWordFor i) ws) :
    us.any isAxisWord = ws.any isAxisWord := by
  rw [Bool.eq_iff_iff, any_isAxisWord_iff, any_isAxisWord_iff]
  simp only [h]

/-! ### The words of a move -/

section

variable (m : Machine)

/-- The words with an `F` set the feed rates that change. -/
theorem takeMoveWords_feed (ws : List Word) :
    let vs := (valuesOf isFeedWord ws).map (· * m.unitScale)
    (takeMoveWords m ws).2 = (rateChanges m.feedrate vs).map .setFeedrate ∧
      (takeMoveWords m ws).1.feedrate = rateAfter m.feedrate vs := by
  induction ws generalizing m with
  | nil => exact ⟨rfl, rfl⟩
  | cons w ws ih =>
    rw [takeMoveWords, valuesOf_cons]
    by_cases hf : w.letter = ['F']
    · have feed : isFeedWord w = true := decide_eq_true hf
      rw [if_pos hf, if_pos feed, List.map_cons]
      simp only [rateChanges_cons, rateAfter_cons]
      by_cases hv : (w.value * m.unitScale != m.feedrate) = true
      · have change : Changes m.feedrate (w.value * m.unitScale) := hv
        obtain ⟨told, last⟩ := ih { m with feedrate := w.value * m.unitScale }
        rw [if_pos hv, if_pos change, if_pos change]
        exact ⟨congrArg (Action.setFeedrate (w.value * m.unitScale) :: ·) told, last⟩
      · have same : ¬Changes m.feedrate (w.value * m.unitScale) := hv
        rw [if_neg hv, if_neg same, if_neg same]
        exact ih m
    · rw [if_neg hf, if_neg (by simpa [isFeedWord] using hf)]
      split
      · exact ih (m.moveAxis _ _)
      · exact ih m

/-- One word leads its axis to a position, and no other. -/
theorem get_position_takeMoveWord (w : Word) (i : Axis) :
    (takeMoveWords m [w]).1.position.get i
      = if isWordFor i w then m.target i (w.value * m.unitScale) else m.position.get i := by
  by_cases hf : w.letter = ['F']
  · rw [isWordFor_eq_false_of_isFeedWord (decide_eq_true hf), takeMoveWords, if_pos hf]
    split <;> rfl
  · rw [takeMoveWords, if_neg hf, isWordFor]
    rcases named : Axis.ofLetter? w.letter with - | j
    · rfl
    · simp only [takeMoveWords, Machine.get_position_moveAxis, Option.some.injEq,
        decide_eq_true_eq, eq_comm (a := j)]
      by_cases hi : i = j
      · rw [if_pos hi, if_pos hi, hi]
      · rw [if_neg hi, if_neg hi]

/-- The words for an axis lead it one after the other. -/
theorem get_position_takeMoveWords (ws : List Word) (i : Axis) :
    (takeMoveWords m ws).1.position.get i = m.follow i (valuesOf (isWordFor i) ws) := by
  induction ws generalizing m with
  | nil => rfl
  | cons w ws ih =>
    obtain ⟨unit, absolute, origin⟩ := takeMoveWords_keeps m [w]
    have first := get_position_takeMoveWord m w i
    rw [takeMoveWords_cons, ih, valuesOf_cons, Machine.follow, unit, absolute, origin, first]
    by_cases hw : isWordFor i w = true
    · rw [if_pos hw, if_pos hw]
      rfl
    · rw [if_neg hw, if_neg hw]
      rfl

/-- Words that are the same for each register do the same. -/
theorem takeMoveWords_congr {us ws : List Word}
    (hf : valuesOf isFeedWord us = valuesOf isFeedWord ws)
    (ha : ∀ i, valuesOf (isWordFor i) us = valuesOf (isWordFor i) ws) :
    takeMoveWords m us = takeMoveWords m ws := by
  obtain ⟨unit, absolute, origin⟩ := takeMoveWords_keeps m us
  obtain ⟨unit', absolute', origin'⟩ := takeMoveWords_keeps m ws
  obtain ⟨told, rate⟩ := takeMoveWords_feed m us
  obtain ⟨told', rate'⟩ := takeMoveWords_feed m ws
  have machine : (takeMoveWords m us).1 = (takeMoveWords m ws).1 := by
    apply Machine.ext
    · rw [unit, unit']
    · rw [absolute, absolute']
    · rw [origin, origin']
    · refine PerAxis.ext_get fun i => ?_
      rw [get_position_takeMoveWords, get_position_takeMoveWords, ha]
    · rw [rate, rate', hf]
  exact Prod.ext machine (by rw [told, told', hf])

end

/-! ### The words of a change of origin -/

section

variable (m : Machine)

/-- Of the words for an axis the last one gives it its origin. -/
theorem get_origin_takeOriginWords_eq (ws : List Word) (i : Axis) :
    (takeOriginWords m ws).origin.get i
      = ((valuesOf (isWordFor i) ws).getLast?.map fun v =>
          m.position.get i - v * m.unitScale).getD (m.origin.get i) := by
  induction ws generalizing m with
  | nil => rfl
  | cons w ws ih =>
    obtain ⟨unit, -, position, -⟩ := takeOriginWords_keeps m [w]
    have first := OriginWord.get_origin_takeOriginWord m w i
    have more := ih (takeOriginWords m [w])
    rw [unit, position, first] at more
    rw [valuesOf_cons]
    refine Eq.trans more ?_
    show Option.getD _ (if isWordFor i w = true then _ else _) = _
    split
    · rw [List.getLast?_cons]
      cases (valuesOf (isWordFor i) ws).getLast? <;> rfl
    · rfl

/-- Words that are the same for each axis do the same. -/
theorem takeOriginWords_congr {us ws : List Word}
    (ha : ∀ i, valuesOf (isWordFor i) us = valuesOf (isWordFor i) ws) :
    takeOriginWords m us = takeOriginWords m ws := by
  obtain ⟨unit, absolute, position, rate⟩ := takeOriginWords_keeps m us
  obtain ⟨unit', absolute', position', rate'⟩ := takeOriginWords_keeps m ws
  apply Machine.ext
  · rw [unit, unit']
  · rw [absolute, absolute']
  · refine PerAxis.ext_get fun i => ?_
    rw [get_origin_takeOriginWords_eq, get_origin_takeOriginWords_eq, ha]
  · rw [position, position']
  · rw [rate, rate']

end

end Command

end Toolpath
