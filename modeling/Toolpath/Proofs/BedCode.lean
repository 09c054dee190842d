/-
Toolpath/Proofs/BedCode.lean

The codes of the bed.  The printer knows them by their text, and a number has the text of a code if
its six significant digits are those of the code: so a number within half a thousandth of `140` or
of `190` is that code, on either side (`handOver_bed`).  A command of the interpreter is known by
the integer part of its number instead.  The two rules part for a number that is less than a code by
half a thousandth at most, and for one that is more by more than that and by less than one.
-/
import Toolpath.Proofs.Numeral.Significant
import Toolpath.Proofs.PrinterCounts

namespace Toolpath

namespace Printer

/-- The number of a code. -/
def BedCommand.code : BedCommand → ℕ
  | .set => 140
  | .setAndWait => 190

/-- The text of a code is its letter and its number with six digits. -/
theorem bedCommand?_eq_some_iff_text {w : Word} {b : BedCommand} :
    bedCommand? w = some b
      ↔ w.text = 'M' :: Significant.layout.write ⟨false, b.code * 1000, -3⟩ := by
  have set : 'M' :: Significant.layout.write ⟨false, BedCommand.set.code * 1000, -3⟩
      = "M140".toList := by decide
  have wait : 'M' :: Significant.layout.write ⟨false, BedCommand.setAndWait.code * 1000, -3⟩
      = "M190".toList := by decide
  cases b with
  | set => rw [bedCommand?_eq_set_iff, set]
  | setAndWait => rw [bedCommand?_eq_setAndWait_iff, wait]

/-- Which numbers are the code of a bed command: those within half a thousandth of it. -/
theorem bedCommand?_eq_some_iff {v : Float} {r : ℚ} (hv : number? v = some r) (t : Text)
    (b : BedCommand) : bedCommand? ⟨['M'], v, t⟩ = some b ↔ |r - b.code| ≤ 1 / 2000 := by
  have digits : b.code * 1000 % 2 = 0 ∧ 10 ^ 5 < b.code * 1000 ∧ b.code * 1000 < 10 ^ 6 := by
    cases b <;> decide
  have near := Significant.write_eq_iff hv digits.1 digits.2.1 digits.2.2 (-3)
  have code : ((b.code * 1000 : ℕ) : ℚ) * 10 ^ (-3 : ℤ) = b.code := by
    push_cast
    norm_num
    ring
  have half : (10 : ℚ) ^ (-3 : ℤ) / 2 = 1 / 2000 := by norm_num
  rw [code, half] at near
  rw [bedCommand?_eq_some_iff_text, ← near]
  exact List.cons_inj_right 'M'

/-- A number has the code of a bed command as its integer part if it is at least the code and less
than one more. -/
theorem integerPart?_eq_code_iff {v : Float} {r : ℚ} (hv : number? v = some r) (b : BedCommand) :
    integerPart? v = some (b.code : ℤ) ↔ b.code ≤ r ∧ r < b.code + 1 := by
  have positive : (1 : ℚ) ≤ b.code := by
    cases b <;> norm_num [BedCommand.code]
  rw [integerPart?_eq, hv, Option.map_some, Option.some_inj]
  by_cases h : 0 ≤ r
  · rw [towardZero_of_nonneg h, Int.floor_eq_iff]
    norm_cast
  · -- the integer part of a negative number is not positive
    have below : ¬(b.code ≤ r ∧ r < b.code + 1) := fun hr => by linarith [hr.1]
    refine iff_of_false (fun part => ?_) below
    rw [towardZero, if_neg h, Int.ceil_eq_iff] at part
    have above : (b.code : ℚ) - 1 < r := by exact_mod_cast part.1
    linarith

/-- A number that is near neither code is none. -/
theorem bedCommand?_eq_none_of_far {v : Float} {r : ℚ} (hv : number? v = some r) (t : Text)
    (far : ∀ b : BedCommand, 1 / 2000 < |r - b.code|) : bedCommand? ⟨['M'], v, t⟩ = none := by
  refine Option.eq_none_iff_forall_ne_some.2 fun b hb => ?_
  exact absurd ((bedCommand?_eq_some_iff hv t b).1 hb) (not_le.2 (far b))

/-- Where being near to a number and having it as the integer part come to the same. -/
theorem near_iff_integerPart_iff (c r : ℚ) :
    (|r - c| ≤ 1 / 2000 ↔ c ≤ r ∧ r < c + 1)
      ↔ ¬(c - 1 / 2000 ≤ r ∧ r < c) ∧ ¬(c + 1 / 2000 < r ∧ r < c + 1) := by
  rw [abs_le]
  constructor
  · intro same
    refine ⟨fun below => ?_, fun above => ?_⟩
    · have := (same.1 ⟨by linarith [below.1], by linarith [below.2]⟩).1
      linarith [below.2]
    · have := (same.2 ⟨by linarith [above.1], above.2⟩).2
      linarith [above.1]
  · rintro ⟨below, above⟩
    constructor
    · rintro ⟨least, most⟩
      have atLeast : c ≤ r := not_lt.1 fun h => below ⟨by linarith, h⟩
      exact ⟨atLeast, by linarith⟩
    · rintro ⟨least, less⟩
      have atMost : r ≤ c + 1 / 2000 := not_lt.1 fun h => above ⟨h, less⟩
      exact ⟨by linarith, by linarith⟩

/-- Reading goes on behind the setting of a code, if one follows. -/
theorem resume_of_bedCommand? {d : Dialect} {w : Word} {b : BedCommand}
    (hb : bedCommand? w = some b) :
    resume d w = ((Word.setting? d w.rest).map Prod.snd).getD w.rest := by
  rw [resume, hb]
  exact afterBed_eq d w.rest

end Printer

open Printer

/-- What the printer makes of an `M` with a number `r` that is handed over to it.  It is the code
`140` just if `r` is half a thousandth away from it at most, and the same with `190`; then the
temperature of the bed is set to the setting that follows, if one does, and reading goes on behind
it, and after a `190` a wait is counted.  Any other word is kept among those that are ignored, and
nothing else is changed.

The integer part would tell the codes in the same way but for a number that is less than a code by
half a thousandth at most, or more by more than that and less than one. -/
theorem handOver_bed (d : Dialect) {v : Float} {r : ℚ} (hv : number? v = some r) (t : Text)
    (p : Printer) :
    let w : Word := ⟨['M'], v, t⟩
    let target := ((Word.setting? d t).map Prod.fst).getD p.bedTarget
    let rest := ((Word.setting? d t).map Prod.snd).getD t
    (|r - 140| ≤ 1 / 2000 →
        (printer d).accept (.handOver w) p = { p with bedTarget := target } ∧
          (printer d).resume w p = some rest) ∧
      (|r - 190| ≤ 1 / 2000 →
        (printer d).accept (.handOver w) p
            = { p with bedTarget := target, waitCount := p.waitCount + 1 } ∧
          (printer d).resume w p = some rest) ∧
      (1 / 2000 < |r - 140| → 1 / 2000 < |r - 190| →
        (printer d).accept (.handOver w) p
            = { p with ignoredWords := p.ignoredWords.push w.text } ∧
          (printer d).resume w p = some t) ∧
      ∀ b : BedCommand,
        (bedCommand? w = some b ↔ integerPart? v = some (b.code : ℤ)) ↔
          ¬(b.code - 1 / 2000 ≤ r ∧ r < b.code) ∧ ¬(b.code + 1 / 2000 < r ∧ r < b.code + 1) := by
  intro w target rest
  have accept : (printer d).accept (.handOver w) p = takeWord d w p := rfl
  have resume : (printer d).resume w p = some (Printer.resume d w) := rfl
  refine ⟨fun near => ?_, fun near => ?_, fun far140 far190 => ?_, fun b => ?_⟩
  · have set : bedCommand? w = some .set :=
      (bedCommand?_eq_some_iff hv t .set).2 (by exact_mod_cast near)
    rw [accept, resume, takeWord, set, setBed_eq, resume_of_bedCommand? set]
    exact ⟨rfl, rfl⟩
  · have wait : bedCommand? w = some .setAndWait :=
      (bedCommand?_eq_some_iff hv t .setAndWait).2 (by exact_mod_cast near)
    rw [accept, resume, takeWord, wait, setBed_eq, resume_of_bedCommand? wait]
    exact ⟨rfl, rfl⟩
  · have other : bedCommand? w = none := by
      refine bedCommand?_eq_none_of_far hv t fun b => ?_
      cases b with
      | set => exact_mod_cast far140
      | setAndWait => exact_mod_cast far190
    rw [accept, resume, takeWord, Printer.resume, other]
    exact ⟨rfl, rfl⟩
  · rw [bedCommand?_eq_some_iff hv t b, integerPart?_eq_code_iff hv b]
    exact near_iff_integerPart_iff b.code r

/-- The number `190 + 2⁻¹²` is the code `190`, and the bed is set to the `60` that follows. -/
theorem handOver_bed_beside_code :
    number? 190.000244140625 = some (190 + 1 / 4096) ∧
      (printer {}).accept (.handOver ⟨['M'], 190.000244140625, "S60 X1".toList⟩) powerOn
        = { powerOn with bedTarget := 60.0, waitCount := 1 } := by
  have number : number? 190.000244140625 = some (190 + 1 / 4096) := by
    have read : Reading.ofFloat 190.000244140625
        = .finite ⟨false, 190000244140625 * 10 ^ 33, -45⟩ := by decide +kernel
    rw [number?_eq, read]
    norm_num [Reading.number?, Decimal.toRat]
  have bed := ((handOver_bed {} number "S60 X1".toList powerOn).2.1 (by norm_num [abs_of_pos])).1
  refine ⟨number, bed.trans ?_⟩
  decide +kernel

/-- The integer part does not tell the codes.  The number `140.9` has the integer part `140` and is
no code of the bed: the word is ignored, and the setting that follows is not read.  And
`139.9999999` has the integer part `139` and is one. -/
theorem bed_code_is_not_integerPart :
    (integerPart? 140.9 = some 140 ∧
        (printer {}).accept (.handOver ⟨['M'], 140.9, "S60".toList⟩) powerOn
          = { powerOn with ignoredWords := #["M140.9".toList] }) ∧
      (integerPart? 139.9999999 = some 139 ∧
        (printer {}).accept (.handOver ⟨['M'], 139.9999999, "S60".toList⟩) powerOn
          = { powerOn with bedTarget := 60.0 }) ∧
      ¬∀ (v : Float) (t : Text), v.isFinite = true →
        (bedCommand? ⟨['M'], v, t⟩ ≠ none ↔
          integerPart? v = some 140 ∨ integerPart? v = some 190) := by
  refine ⟨by decide +kernel, by decide +kernel, fun same => ?_⟩
  have fraction := (same 140.9 [] (by decide +kernel)).2 (.inl (by decide +kernel))
  exact fraction (by decide +kernel)

end Toolpath
