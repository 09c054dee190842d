/-
Toolpath/Axis/Basic.lean

The seven axes of the machine, and registers that hold one value for each of them.
Writing the register of one axis leaves those of the others alone (`get_set_of_ne`), and
a register bank is known by what it holds for each axis (`PerAxis.ext_get`).
-/
import Toolpath.Text.Uppercase

namespace Toolpath

/-! ### The axes -/

/-- An axis: three directions, the extruder, and three that turn. -/
inductive Axis
  | x
  | y
  | z
  | e
  | a
  | b
  | c
  deriving DecidableEq, Repr

namespace Axis

/-- The axes, in the order in which positions list them. -/
def all : List Axis := [.x, .y, .z, .e, .a, .b, .c]

theorem mem_all (i : Axis) : i ∈ all := by
  cases i <;> decide

/-- The place of an axis in that order. -/
def index : Axis → Nat
  | .x => 0
  | .y => 1
  | .z => 2
  | .e => 3
  | .a => 4
  | .b => 5
  | .c => 6

/-- The letter that names an axis. -/
def letter : Axis → Char
  | .x => 'X'
  | .y => 'Y'
  | .z => 'Z'
  | .e => 'E'
  | .a => 'A'
  | .b => 'B'
  | .c => 'C'

/-- The axis that a text names, in either case. -/
def ofLetter? (t : Text) : Option Axis :=
  all.find? fun i => Text.upper t == [i.letter]

/-- An axis is named by its letter. -/
theorem ofLetter?_letter (i : Axis) : ofLetter? [i.letter] = some i := by
  cases i <;> decide

/-- Whatever names an axis has the letter of the axis as its upper case. -/
theorem upper_eq_of_ofLetter? {t : Text} {i : Axis} (h : ofLetter? t = some i) :
    Text.upper t = [i.letter] := by
  simpa using List.find?_some h

end Axis

/-! ### One register for each axis -/

/-- A value for each axis. -/
structure PerAxis (α : Type) where
  x : α
  y : α
  z : α
  e : α
  a : α
  b : α
  c : α
  deriving DecidableEq, Repr

namespace PerAxis

variable {α β γ : Type}

/-- The value held for an axis. -/
def get (r : PerAxis α) : Axis → α
  | .x => r.x
  | .y => r.y
  | .z => r.z
  | .e => r.e
  | .a => r.a
  | .b => r.b
  | .c => r.c

/-- The values given by a function of the axis. -/
def ofFn (f : Axis → α) : PerAxis α :=
  ⟨f .x, f .y, f .z, f .e, f .a, f .b, f .c⟩

/-- The same value for each axis. -/
def fill (v : α) : PerAxis α :=
  ofFn fun _ => v

/-- The register of one axis written anew. -/
def set (r : PerAxis α) (i : Axis) (v : α) : PerAxis α :=
  match i with
  | .x => { r with x := v }
  | .y => { r with y := v }
  | .z => { r with z := v }
  | .e => { r with e := v }
  | .a => { r with a := v }
  | .b => { r with b := v }
  | .c => { r with c := v }

/-- Two banks combined axis by axis. -/
def zipWith (f : α → β → γ) (r : PerAxis α) (s : PerAxis β) : PerAxis γ :=
  ofFn fun i => f (r.get i) (s.get i)

/-- The values in the order of the axes. -/
def toList (r : PerAxis α) : List α :=
  Axis.all.map r.get

@[simp] theorem get_ofFn (f : Axis → α) (i : Axis) : (ofFn f).get i = f i := by
  cases i <;> rfl

@[simp] theorem get_fill (v : α) (i : Axis) : (fill v).get i = v :=
  get_ofFn _ i

@[simp] theorem get_zipWith (f : α → β → γ) (r : PerAxis α) (s : PerAxis β) (i : Axis) :
    (zipWith f r s).get i = f (r.get i) (s.get i) :=
  get_ofFn _ i

theorem ext_get {r s : PerAxis α} (h : ∀ i, r.get i = s.get i) : r = s := by
  rcases r with ⟨rx, ry, rz, re, ra, rb, rc⟩
  rcases s with ⟨sx, sy, sz, se, sa, sb, sc⟩
  have hx : rx = sx := h .x
  have hy : ry = sy := h .y
  have hz : rz = sz := h .z
  have he : re = se := h .e
  have ha : ra = sa := h .a
  have hb : rb = sb := h .b
  have hc : rc = sc := h .c
  subst hx hy hz he ha hb hc
  rfl

theorem get_set (r : PerAxis α) (i j : Axis) (v : α) :
    (r.set i v).get j = if j = i then v else r.get j := by
  cases i <;> cases j <;> rfl

@[simp] theorem get_set_self (r : PerAxis α) (i : Axis) (v : α) : (r.set i v).get i = v := by
  rw [get_set, if_pos rfl]

theorem get_set_of_ne (r : PerAxis α) {i j : Axis} (h : j ≠ i) (v : α) :
    (r.set i v).get j = r.get j := by
  rw [get_set, if_neg h]

@[simp] theorem length_toList (r : PerAxis α) : r.toList.length = 7 := rfl

end PerAxis

end Toolpath
