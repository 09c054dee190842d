/-
Toolpath/Number/Significant.lean

A double written with at most six significant digits, as words and values are shown in
messages: the exact value is rounded, and zeros at the end are dropped.
-/
import Toolpath.Number.Layout

namespace Toolpath.Significant

/-- The number of digits that are kept. -/
def digitCount : Nat := 6

/-- Six digits are written in positions from `0.0001` on and below a million. -/
def layout : Layout :=
  { positionalFrom := -4, scientificFrom := 6, keepsPoint := false }

/-- A decimal rounded to six significant digits; shorter ones are kept as they are. -/
def round (d : Decimal) : Decimal :=
  d.dropDigits ((Decimal.digits d.coefficient).length - digitCount)

/-- A double with six significant digits. -/
def write (x : Float) : Text :=
  Layout.writeReading (fun d => layout.write (round d)) (Reading.ofFloat x)

end Toolpath.Significant
