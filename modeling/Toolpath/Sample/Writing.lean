/-
Toolpath/Sample/Writing.lean

How the words of a sample program are written.
-/
import Toolpath.Number.Fixed
import Toolpath.Text.Line

namespace Toolpath.Sample

/-- A word with its number to so many places. -/
def word (letter : Char) (places : Nat) (v : Float) : Text :=
  letter :: Fixed.write places v

/-- An integer in base ten. -/
def integer (n : Int) : Text :=
  Layout.sign (n < 0) ++ Decimal.digits n.natAbs

end Toolpath.Sample
