/-
Toolpath/Axis/Mask.lean

Sets of axes, and the mask that stands for a set: the sum of a power of two for each
axis in it.  Sets and masks below 128 are the same thing (`ofMask_mask`).
-/
import Toolpath.Axis.Basic

namespace Toolpath

/-- A set of axes: for each axis, whether it is in the set. -/
abbrev AxisSet := PerAxis Bool

namespace AxisSet

/-- The set without axes. -/
def empty : AxisSet := PerAxis.fill false

/-- The set of all axes. -/
def full : AxisSet := PerAxis.fill true

/-- The set with one axis more. -/
def insert (s : AxisSet) (i : Axis) : AxisSet :=
  PerAxis.set s i true

/-- The axes in either set. -/
def union (s t : AxisSet) : AxisSet :=
  PerAxis.zipWith (· || ·) s t

/-- The axes of a list. -/
def ofList (l : List Axis) : AxisSet :=
  l.foldl insert empty

/-- The mask of a set. -/
def mask (s : AxisSet) : Nat :=
  Axis.all.foldr (fun i n => (if s.get i then 1 <<< i.index else 0) + n) 0

/-- The set that a mask stands for. -/
def ofMask (n : Nat) : AxisSet :=
  PerAxis.ofFn fun i => n.testBit i.index

/-- The mask in base sixteen, with at least two digits. -/
def maskText (s : AxisSet) : Text :=
  '0' :: 'x' :: (Nat.toDigits 16 s.mask).leftpad 2 '0'

/-- The mask tells the set. -/
theorem ofMask_mask (s : AxisSet) : ofMask s.mask = s := by
  rcases s with ⟨x, y, z, e, a, b, c⟩
  revert x y z e a b c
  decide

@[simp] theorem get_insert (s : AxisSet) (i j : Axis) :
    (s.insert i).get j = (decide (j = i) || s.get j) := by
  rw [insert, PerAxis.get_set]
  by_cases h : j = i <;> simp [h]

/-- An axis is in the set of a list just when it is in the list. -/
theorem get_ofList (l : List Axis) (i : Axis) : (ofList l).get i = decide (i ∈ l) := by
  have step : ∀ (l : List Axis) (s : AxisSet),
      (l.foldl insert s).get i = (s.get i || decide (i ∈ l)) := by
    intro l
    induction l with
    | nil => simp
    | cons j l ih =>
        intro s
        rw [List.foldl_cons, ih, get_insert]
        by_cases h : i = j <;> simp [h]
  exact (step l empty).trans (by simp [empty])

end AxisSet

end Toolpath
