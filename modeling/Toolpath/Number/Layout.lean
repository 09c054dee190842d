/-
Toolpath/Number/Layout.lean

How a decimal's digits are set as text.  Only the digits that matter are written: zeros
at the end of the coefficient are dropped.  Between two bounds on the decimal exponent
the number is written in positions, with zeros where the point is out of reach; outside
them it has one digit before the point and an exponent of at least two digits after an
`e`.  A layout fixes the bounds and whether a whole number keeps a point.
-/
import Toolpath.Text.Blank
import Toolpath.Number.Decimal

namespace Toolpath

/-- The choices that set one way of writing decimals apart from another. -/
structure Layout where
  /-- The least decimal exponent written in positions. -/
  positionalFrom : Int
  /-- The least decimal exponent above those that is written as an exponent again. -/
  scientificFrom : Int
  /-- Whether a whole number in positions ends in a point and a zero. -/
  keepsPoint : Bool

namespace Layout

/-- The minus sign, where there is one. -/
def sign (negative : Bool) : Text :=
  if negative then ['-'] else []

/-- `n` zeros. -/
def zeros (n : Nat) : Text :=
  List.replicate n '0'

/-- The digits without the zeros at their end. -/
def trimZeros (ds : Text) : Text :=
  (ds.reverse.dropWhile (· == '0')).reverse

/-- Digits in positions, the first of them worth `10 ^ exponent`. -/
def positional (l : Layout) (ds : Text) (exponent : Int) : Text :=
  if exponent < 0 then
    -- the point stands before all digits
    ['0', '.'] ++ zeros (exponent.natAbs - 1) ++ ds
  else
    let places := exponent.natAbs + 1
    if ds.length ≤ places then
      -- the point stands after all digits
      ds ++ zeros (places - ds.length) ++ if l.keepsPoint then ['.', '0'] else []
    else
      ds.take places ++ '.' :: ds.drop places

/-- An exponent: its mark, its sign, and at least two digits. -/
def exponentText (exponent : Int) : Text :=
  'e' :: (if exponent < 0 then '-' else '+')
    :: (Decimal.digits exponent.natAbs).leftpad 2 '0'

/-- Digits with one of them before the point, and the exponent of that one. -/
def scientific (ds : Text) (exponent : Int) : Text :=
  match ds with
  | d :: [] => d :: exponentText exponent
  | d :: more => d :: '.' :: more ++ exponentText exponent
  | [] => exponentText exponent

/-- A decimal as text. -/
def write (l : Layout) (d : Decimal) : Text :=
  if d.coefficient = 0 then
    sign d.negative ++ l.positional ['0'] 0
  else
    let ds := Decimal.digits d.coefficient
    let exponent := d.exponent + ds.length - 1
    let body := trimZeros ds
    sign d.negative ++
      if l.positionalFrom ≤ exponent ∧ exponent < l.scientificFrom then
        l.positional body exponent
      else
        scientific body exponent

/-- A double as text, its decimal written by `finite`; the special values have names. -/
def writeReading (finite : Decimal → Text) : Reading → Text
  | .undefined => ['n', 'a', 'n']
  | .infinite negative => sign negative ++ ['i', 'n', 'f']
  | .finite d => finite d

end Layout

end Toolpath
