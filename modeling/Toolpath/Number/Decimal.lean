/-
Toolpath/Number/Decimal.lean

Decimals, and how they meet doubles.  A decimal is a signed natural number scaled by a
power of ten; `toFloat` is the double nearest to it.  In the other direction nothing is
lost: a finite double is `± m · 2 ^ q`, and for negative `q` this is
`± (m · 5 ^ (-q)) · 10 ^ q`, a decimal again.  So every way of printing a double works on
an exact decimal, in whole numbers.
-/
import Toolpath.Number.Rounding

namespace Toolpath

/-- The number `± coefficient · 10 ^ exponent`. -/
structure Decimal where
  negative : Bool
  coefficient : Nat
  exponent : Int
  deriving DecidableEq, Repr

namespace Decimal

/-! ### From a decimal to a double -/

/-- The double nearest to the decimal; the sign is kept on zero and on overflow. -/
def toFloat (d : Decimal) : Float :=
  let size := Float.ofScientific d.coefficient (d.exponent < 0) d.exponent.natAbs
  if d.negative then -size else size

/-! ### From a double to a decimal -/

/-- The binary number `± m · 2 ^ q` as a decimal, exactly. -/
def ofBinary (negative : Bool) (m : Nat) (q : Int) : Decimal :=
  if q < 0 then
    { negative, coefficient := m * Nat.pow 5 q.natAbs, exponent := q }
  else
    { negative, coefficient := m * Nat.pow 2 q.natAbs, exponent := 0 }

/-! ### Whole parts and scaled values -/

/-- The digits of a natural number in base ten. -/
def digits (n : Nat) : List Char :=
  Nat.toDigits 10 n

/-- The size of the decimal times `10 ^ places`, rounded to an integer. -/
def scaled (d : Decimal) (places : Nat) : Nat :=
  let e := d.exponent + places
  if e < 0 then roundDiv d.coefficient (Nat.pow 10 e.natAbs)
  else d.coefficient * Nat.pow 10 e.natAbs

/-- The integer part, with the sign: the fraction is dropped on either side of zero. -/
def truncate (d : Decimal) : Int :=
  let size :=
    if d.exponent < 0 then d.coefficient / Nat.pow 10 d.exponent.natAbs
    else d.coefficient * Nat.pow 10 d.exponent.natAbs
  if d.negative then -(size : Int) else size

/-- The last `drop` digits of the coefficient rounded away. -/
def dropDigits (d : Decimal) (drop : Nat) : Decimal :=
  { d with coefficient := roundDiv d.coefficient (Nat.pow 10 drop), exponent := d.exponent + drop }

end Decimal

/-! ### What a double stands for -/

/-- The meaning of a double: a decimal, unless it is one of the special values. -/
inductive Reading
  | undefined
  | infinite (negative : Bool)
  | finite (d : Decimal)
  deriving DecidableEq, Repr

/-- Whether a sign is a minus. -/
def isMinus : Float.Model.UnpackedFloat.Sign → Bool
  | .negative => true
  | .positive => false

/-- Read a double exactly. -/
def Reading.ofFloat (x : Float) : Reading :=
  match x.toModel.unpack with
  | .notANumber => .undefined
  | .infinity s => .infinite (isMinus s)
  | .zero s => .finite ⟨isMinus s, 0, 0⟩
  | .finite s m q _ => .finite (Decimal.ofBinary (isMinus s) m q)

/-- The integer part of a double; the special values have none. -/
def integerPart? (x : Float) : Option Int :=
  match Reading.ofFloat x with
  | .finite d => some d.truncate
  | _ => none

end Toolpath
