/-
Toolpath/Text/Uppercase.lean

The upper case of a text, character by character and in every script.  One character
may become several, as ß becomes SS, or leave its script, as ı becomes the letter I.
-/
import Toolpath.Text.Blank
import Toolpath.Text.Uppercase.Table

namespace Toolpath.Text

/-- The upper case of one character: itself, unless a table gives another. -/
def upperChar (c : Char) : Text :=
  if c.toNat < 0x80 then
    [c.toUpper]
  else
    match Uppercase.expansions.lookup c.toNat with
    | some image => image.map Char.ofNat
    | none =>
      match Uppercase.runs.findSome? (·.image? c.toNat) with
      | some n => [Char.ofNat n]
      | none => [c]

/-- The upper case of a text. -/
def upper (t : Text) : Text :=
  t.flatMap upperChar

@[simp] theorem upper_nil : upper [] = [] := rfl

theorem upper_append (s t : Text) : upper (s ++ t) = upper s ++ upper t :=
  List.flatMap_append

/-- In ASCII only the letters change, and each becomes one letter. -/
theorem upperChar_of_ascii {c : Char} (h : c.toNat < 0x80) : upperChar c = [c.toUpper] :=
  if_pos h

end Toolpath.Text
