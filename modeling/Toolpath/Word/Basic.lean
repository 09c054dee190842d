/-
Toolpath/Word/Basic.lean

Words: a letter, the number after it, and the text that follows.  A word can be broken
in two ways, and the text from which reading may go on is known for each.
-/
import Toolpath.Number.Significant

namespace Toolpath

/-- A word read from a line. -/
structure Word where
  /-- The letter, in upper case; in some scripts that is several characters. -/
  letter : Text
  /-- The number after the letter. -/
  value : Float
  /-- The text after the word, blanks skipped. -/
  rest : Text
  deriving DecidableEq

/-- A word as text: its letter, and six significant digits of its number. -/
def Word.text (w : Word) : Text :=
  w.letter ++ Significant.write w.value

/-- What can be wrong with a word. -/
inductive WordError
  /-- The line ends after the letter. -/
  | missingValue (letter : Text)
  /-- The text after the letter does not begin with a number. -/
  | invalidNumber (letter rest : Text)
  deriving DecidableEq

namespace WordError

/-- The letter of the broken word. -/
def letter : WordError → Text
  | .missingValue letter => letter
  | .invalidNumber letter _ => letter

/-- The text after the letter, blanks skipped. -/
def rest : WordError → Text
  | .missingValue _ => []
  | .invalidNumber _ rest => rest

/-- What is said about a broken word. -/
def message : WordError → Text
  | .missingValue letter => "expected value after '".toList ++ letter ++ "'".toList
  | .invalidNumber letter rest =>
    "'".toList ++ letter ++ "' is not followed by a number: '".toList ++ rest ++ "'".toList

end WordError

end Toolpath
