/-
Toolpath/Number/Fixed.lean

A double written with a fixed number of places after the point.  The exact value is
rounded; all its digits before the point are written, and the sign also where every
digit is zero.
-/
import Toolpath.Number.Layout

namespace Toolpath.Fixed

/-- A decimal with `places` digits after the point, and no point if there are none. -/
def writeDecimal (places : Nat) (d : Decimal) : Text :=
  let ds := (Decimal.digits (d.scaled places)).leftpad (places + 1) '0'
  let whole := ds.take (ds.length - places)
  let fraction := ds.drop (ds.length - places)
  Layout.sign d.negative ++ whole ++ if places = 0 then [] else '.' :: fraction

/-- A double with `places` digits after the point. -/
def write (places : Nat) (x : Float) : Text :=
  Layout.writeReading (writeDecimal places) (Reading.ofFloat x)

end Toolpath.Fixed
