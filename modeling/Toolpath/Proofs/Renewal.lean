/-
Toolpath/Proofs/Renewal.lean

A reset is as good as a new start.  Whatever was asked of an interpreter before, once it is reset
and its device is put back, all further requests lead to the registers, the device, the count, the
diagnostics and the answers to which they lead a new interpreter with a new device
(`serveAll_after_reset`).  Only the journal tells that there was something before.

The reset writes every register, the count and the diagnostics, and what puts a device back forgets
nothing of it (`Renewable`); what is left of the past is the journal, and that is never read
(`Past`).
-/
import Toolpath.Device.Printer
import Toolpath.Proofs.Past
import Toolpath.Proofs.Session
import Toolpath.Repetition

namespace Toolpath

/-! ### Devices that can be put back -/

/-- States of a device that can be put back: whatever the state is, `renew` leads to the new one. -/
structure Renewable (σ : Type) where
  new : σ
  renew : σ → σ
  renew_eq : ∀ s, renew s = new

/-- A recording is cleared. -/
def Recording.renewable : Renewable Recording where
  new := #[]
  renew := Recording.clear
  renew_eq _ := rfl

/-- The printer is reset. -/
def Printer.renewable : Renewable Printer where
  new := Printer.powerOn
  renew := Printer.reset
  renew_eq := Printer.reset_eq

/-! ### Requests -/

/-- What can be asked of an interpreter and its device. -/
inductive Request
  /-- A line or a program is to be read. -/
  | call (c : Call)
  /-- The interpreter is to be reset. -/
  | reset
  /-- The device is to be put back. -/
  | clear
  deriving DecidableEq

namespace Interpreter

variable {σ : Type}

/-- The interpreter after a request. -/
def serve (d : Dialect) (k : Device σ) (n : Renewable σ) (i : Interpreter σ) :
    Request → Interpreter σ
  | .call c => i.call d k c
  | .reset => i.reset d
  | .clear => { i with device := n.renew i.device }

/-- The interpreter after several requests. -/
def serveAll (d : Dialect) (k : Device σ) (n : Renewable σ) (i : Interpreter σ)
    (requests : List Request) : Interpreter σ :=
  requests.foldl (serve d k n) i

/-- What is answered to a request by the interpreter after it: to a program the number of its
lines, and to all others nothing. -/
def answer? (i : Interpreter σ) : Request → Option Nat
  | .call (.lines _) => some i.lineCount
  | .call (.program _) => some i.lineCount
  | _ => none

/-- The answers to several requests, in order. -/
def answers (d : Dialect) (k : Device σ) (n : Renewable σ) (i : Interpreter σ) :
    List Request → List (Option Nat)
  | [] => []
  | r :: rs => (i.serve d k n r).answer? r :: answers d k n (i.serve d k n r) rs

end Interpreter

/-! ### A past that is a journal only -/

/-- A past without lines and without diagnostics. -/
def Past.ofJournal (journal : Array Event) : Past :=
  ⟨0, #[], journal⟩

namespace Interpreter

variable {σ : Type} (d : Dialect) (k : Device σ) (n : Renewable σ)

theorem withPast_ofJournal (journal : Array Event) (i : Interpreter σ) :
    i.withPast (.ofJournal journal) = { i with journal := journal ++ i.journal } := by
  simp [withPast, Past.ofJournal]

/-- An interpreter that is reset, with a new device, is a new one with a journal behind it. -/
theorem reset_eq_withPast (s : σ) (i : Interpreter σ) :
    { i.reset d with device := s } = (start d s).withPast (.ofJournal i.journal) := by
  rw [withPast_ofJournal]
  simp [reset, Machine.reset_eq, start]

theorem readLines_ofJournal (journal : Array Event) (i : Interpreter σ) (lines : List Text) :
    (i.withPast (.ofJournal journal)).readLines d k lines
      = (i.readLines d k lines).withPast (.ofJournal journal) := by
  rw [readLines, readLines, ← foldl_readLine_withPast, withPast_ofJournal, withPast_ofJournal]

/-- No request reads the journal. -/
theorem serve_ofJournal (journal : Array Event) (i : Interpreter σ) (r : Request) :
    (i.withPast (.ofJournal journal)).serve d k n r
      = (i.serve d k n r).withPast (.ofJournal journal) := by
  cases r with
  | call c =>
    cases c with
    | line t => exact readLine_withPast d k _ i t
    | lines ts => exact readLines_ofJournal d k journal i ts
    | program t => exact readLines_ofJournal d k journal i (Text.lines t)
  | reset =>
    rw [withPast_ofJournal]
    simp [serve, reset, withPast_ofJournal]
  | clear => rfl

theorem answer?_ofJournal (journal : Array Event) (i : Interpreter σ) (r : Request) :
    (i.withPast (.ofJournal journal)).answer? r = i.answer? r := by
  rw [withPast_ofJournal]
  rcases r with (- | - | -) | - | - <;> rfl

theorem serveAll_ofJournal (journal : Array Event) (i : Interpreter σ) (rs : List Request) :
    (i.withPast (.ofJournal journal)).serveAll d k n rs
      = (i.serveAll d k n rs).withPast (.ofJournal journal) := by
  induction rs generalizing i with
  | nil => rfl
  | cons r rs ih =>
      show serveAll d k n ((i.withPast (.ofJournal journal)).serve d k n r) rs = _
      rw [serve_ofJournal, ih]
      rfl

theorem answers_ofJournal (journal : Array Event) (i : Interpreter σ) (rs : List Request) :
    (i.withPast (.ofJournal journal)).answers d k n rs = i.answers d k n rs := by
  induction rs generalizing i with
  | nil => rfl
  | cons r rs ih => rw [answers, answers, serve_ofJournal, answer?_ofJournal, ih]

end Interpreter

/-! ### A program that is read over and over -/

namespace Repetition

open Interpreter

/-- Once more is as the first time. -/
theorem device_again (lines : List Text) (i : Interpreter Recording) :
    (again lines i).device = ((start {} #[]).readLines {} recorder lines).device := by
  rw [again, reset_eq_withPast, readLines_ofJournal]
  rfl

/-- However often it was read, the recording is that of the last time. -/
theorem device_times (lines : List Text) (n : Nat) (i : Interpreter Recording) :
    (times lines (n + 1) i).device = ((start {} #[]).readLines {} recorder lines).device := by
  induction n generalizing i with
  | zero => exact device_again lines i
  | succ n ih => exact ih (again lines i)

theorem actionCount_eq (program : Text) (repeats : Int) :
    actionCount program repeats
      = if 1 ≤ repeats then
          ((start {} #[]).readLines {} recorder (Text.lines program)).device.size
        else 0 := by
  rw [actionCount]
  split
  · next h =>
      obtain ⟨n, hn⟩ : ∃ n, repeats.toNat = n + 1 := ⟨repeats.toNat - 1, by omega⟩
      rw [hn, device_times]
  · next h =>
      rw [Int.toNat_of_nonpos (by omega)]
      rfl

end Repetition

/-! ### Renewal -/

/-- After any history of requests, an interpreter that is reset, with its device put back, serves
all further requests as a new interpreter with a new device does: the answers are the same, and so
are the registers, the device, the count and the diagnostics.  The journal goes on.

In particular a program that is read over and over asks for as many actions as it does when a new
interpreter reads it, however often that is; and for none if it is not read at all. -/
theorem serveAll_after_reset {σ : Type} (d : Dialect) (k : Device σ) (n : Renewable σ)
    (history more : List Request) :
    let used := (Interpreter.start d n.new).serveAll d k n history
    let renewed : Interpreter σ := { used.reset d with device := n.renew used.device }
    let fresh := Interpreter.start d n.new
    renewed.serveAll d k n more
        = { fresh.serveAll d k n more with
            journal := used.journal ++ (fresh.serveAll d k n more).journal } ∧
      renewed.answers d k n more = fresh.answers d k n more ∧
      ∀ (program : Text) (repeats : Int), Repetition.actionCount program repeats
        = if 1 ≤ repeats then
            ((Interpreter.start {} #[]).readLines {} recorder (Text.lines program)).device.size
          else 0 := by
  intro used renewed fresh
  have past : renewed = fresh.withPast (.ofJournal used.journal) := by
    show { used.reset d with device := n.renew used.device } = _
    rw [n.renew_eq, Interpreter.reset_eq_withPast]
  refine ⟨?_, ?_, Repetition.actionCount_eq⟩
  · rw [past, Interpreter.serveAll_ofJournal, Interpreter.withPast_ofJournal]
  · rw [past, Interpreter.answers_ofJournal]

end Toolpath
