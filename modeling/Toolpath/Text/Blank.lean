/-
Toolpath/Text/Blank.lean

Text is a list of characters, so that a line is read by recursion on it.  This file
says which characters are blank and skips them at the front of a text.  What is left
is always an end of the text it came from, hence no longer, and never begins blank.
-/
namespace Toolpath

/-- A text, from its first character to its last. -/
abbrev Text := List Char

namespace Text

/-! ### Blank characters -/

/-- The blank characters, as ranges of code points with both ends included. -/
def blankRanges : List (Nat × Nat) :=
  [(0x09, 0x0D), (0x1C, 0x20), (0x85, 0x85), (0xA0, 0xA0), (0x1680, 0x1680), (0x2000, 0x200A),
   (0x2028, 0x2029), (0x202F, 0x202F), (0x205F, 0x205F), (0x3000, 0x3000)]

/-- Whether `c` only separates what stands around it. -/
def isBlank (c : Char) : Bool :=
  blankRanges.any fun r => r.1 ≤ c.toNat && c.toNat ≤ r.2

/-- Every character that is white space in ASCII is blank. -/
theorem isBlank_of_isWhitespace {c : Char} (h : c.isWhitespace = true) : isBlank c = true := by
  simp only [Char.isWhitespace, Bool.or_eq_true, decide_eq_true_eq] at h
  rcases h with ((rfl | rfl) | rfl) | rfl <;> decide

/-! ### Skipping blanks -/

/-- The text from its first character that is not blank. -/
def trimStart (t : Text) : Text :=
  t.dropWhile isBlank

@[simp] theorem trimStart_nil : trimStart [] = [] := rfl

theorem trimStart_suffix (t : Text) : trimStart t <:+ t :=
  List.dropWhile_suffix isBlank

theorem length_trimStart_le (t : Text) : (trimStart t).length ≤ t.length :=
  (trimStart_suffix t).length_le

/-- Nothing is skipped where the text does not begin blank. -/
theorem trimStart_cons_of_not_blank {c : Char} (h : isBlank c = false) (t : Text) :
    trimStart (c :: t) = c :: t := by
  simp [trimStart, h]

theorem trimStart_cons_of_blank {c : Char} (h : isBlank c = true) (t : Text) :
    trimStart (c :: t) = trimStart t := by
  simp [trimStart, h]

/-- What is left does not begin blank. -/
theorem not_blank_of_trimStart_eq_cons {t r : Text} {c : Char} (h : trimStart t = c :: r) :
    isBlank c = false := by
  have hd := List.head?_dropWhile_not isBlank t
  rw [show t.dropWhile isBlank = c :: r from h] at hd
  simpa using hd

/-- Skipping blanks twice is skipping them once. -/
@[simp] theorem trimStart_trimStart (t : Text) : trimStart (trimStart t) = trimStart t := by
  rcases h : trimStart t with - | ⟨c, r⟩
  · rfl
  · exact trimStart_cons_of_not_blank (not_blank_of_trimStart_eq_cons h) r

end Text

end Toolpath
