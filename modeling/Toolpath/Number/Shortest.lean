/-
Toolpath/Number/Shortest.lean

A double written with the fewest digits that read back to it.  For each count of digits
the two decimals around the exact value are tried, the nearer one first and, of two
equally near, the one that ends in an even digit; the first that reads back is taken.
Seventeen digits always suffice, and the exact value stands behind them.
-/
import Toolpath.Number.Layout

namespace Toolpath.Shortest

/-- Numbers from `0.0001` on and below `10 ^ 16` are written in positions, whole ones
with a point. -/
def layout : Layout :=
  { positionalFrom := -4, scientificFrom := 16, keepsPoint := true }

/-- The decimals with `drop` digits fewer on either side of `d`, the preferred one first. -/
def neighbours (d : Decimal) (drop : Nat) : List Decimal :=
  let nearest := d.dropDigits drop
  let below := d.coefficient / Nat.pow 10 drop
  let other := if nearest.coefficient = below then below + 1 else below
  [nearest, { nearest with coefficient := other }]

/-- Whether the decimal reads back as the double `x`, bit for bit. -/
def readsBack (x : Float) (d : Decimal) : Bool :=
  d.toFloat.toBits == x.toBits

/-- The shortest decimal that reads back as `x`, whose exact value is `d`. -/
def ofExact (x : Float) (d : Decimal) : Decimal :=
  let size := (Decimal.digits d.coefficient).length
  let tries := (List.range 17).flatMap fun n => neighbours d (size - (n + 1))
  (tries.find? (readsBack x)).getD d

/-- A double with the fewest digits that read back to it. -/
def write (x : Float) : Text :=
  Layout.writeReading (fun d => layout.write (ofExact x d)) (Reading.ofFloat x)

end Toolpath.Shortest
