/-
Toolpath/Proofs/PrinterCounts.lean

What the printer counts and what it remembers.  Each of its counts goes up by one for the actions of
one kind and stays the same for all others, so after any actions it has grown by the number of
actions of that kind (`count_acceptAll`).  A register that some actions write holds what the last of
them has written (`last_acceptAll`).
-/
import Toolpath.Device.Printer

namespace Toolpath

/-- Whether an action is a rapid move. -/
def Action.isRapidMove : Action → Bool
  | .rapidMove _ => true
  | _ => false

namespace Printer

/-- Whether the printer waits for a temperature at an action. -/
def waits : Action → Bool
  | .waitTemperature => true
  | .handOver w => bedCommand? w = some .setAndWait
  | _ => false

/-- A register that counts the actions that satisfy `q`. -/
theorem count_acceptAll {d : Dialect} {count : Printer → Nat} {q : Action → Bool}
    (h : ∀ a p, count (accept d a p) = count p + if q a then 1 else 0) (log : List Action)
    (p : Printer) : count ((printer d).acceptAll log p) = count p + log.countP q := by
  induction log generalizing p with
  | nil => rfl
  | cons a log ih =>
      rw [Device.acceptAll_cons, ih, List.countP_cons]
      show count (accept d a p) + _ = _
      rw [h]
      omega

/-- A register that holds what the last action has written that writes it at all. -/
theorem last_acceptAll {α : Type} {d : Dialect} (register : Printer → α)
    {written? : Action → Option α}
    (h : ∀ a p, register (accept d a p) = (written? a).getD (register p)) (log : List Action)
    (p : Printer) :
    register ((printer d).acceptAll log p)
      = (log.filterMap written?).getLast?.getD (register p) := by
  induction log generalizing p with
  | nil => rfl
  | cons a log ih =>
      have first : register ((printer d).accept a p) = _ := h a p
      rw [Device.acceptAll_cons, ih, first, List.filterMap_cons]
      rcases written? a with - | v
      · rfl
      · simp only [List.getLast?_cons, Option.getD_some]

/-! ### Words that are handed over -/

theorem bedCommand?_eq_set_iff {w : Word} :
    bedCommand? w = some .set ↔ w.text = "M140".toList := by
  rw [bedCommand?]
  split
  · next h => exact iff_of_true rfl h
  · next h =>
      refine iff_of_false ?_ h
      split <;> intro hb <;> cases hb

theorem bedCommand?_eq_setAndWait_iff {w : Word} :
    bedCommand? w = some .setAndWait ↔ w.text = "M190".toList := by
  rw [bedCommand?]
  split
  · next h => exact iff_of_false (by decide) (h ▸ by decide)
  · split
    · next h => exact iff_of_true rfl h
    · next h => exact iff_of_false (by decide) h

/-- The codes of the bed. -/
def bedCodes : List Text :=
  ["M140".toList, "M190".toList]

/-- A word that spells no code of the bed asks nothing of it. -/
theorem bedCommand?_eq_none_iff {w : Word} : bedCommand? w = none ↔ w.text ∉ bedCodes := by
  rw [bedCodes, List.mem_cons, List.mem_singleton, ← bedCommand?_eq_set_iff,
    ← bedCommand?_eq_setAndWait_iff]
  rcases bedCommand? w with - | (- | -) <;> simp

/-- A setting of the bed is the temperature that follows, if one does. -/
theorem setBed_eq (d : Dialect) (t : Text) (p : Printer) :
    setBed d t p
      = { p with bedTarget := ((Word.setting? d t).map Prod.fst).getD p.bedTarget } := by
  rw [setBed]
  rcases Word.setting? d t with - | set <;> rfl

theorem afterBed_eq (d : Dialect) (t : Text) :
    afterBed d t = ((Word.setting? d t).map Prod.snd).getD t := by
  rw [afterBed]
  rcases Word.setting? d t with - | set <;> rfl

/-- A word that is handed over changes the bed, the waits and the ignored words at most. -/
theorem takeWord_keeps (d : Dialect) (w : Word) (p : Printer) :
    ∃ v xs, takeWord d w p
      = { p with
          bedTarget := v
          waitCount := p.waitCount + if waits (.handOver w) then 1 else 0
          ignoredWords := xs } := by
  rw [takeWord, waits]
  rcases bedCommand? w with - | (- | -)
  · exact ⟨_, _, rfl⟩
  · exact ⟨_, _, setBed_eq d w.rest p⟩
  · refine ⟨((Word.setting? d w.rest).map Prod.fst).getD p.bedTarget, p.ignoredWords, ?_⟩
    simp only [setBed_eq]
    rfl

/-- All other registers stay as they are. -/
theorem accept_handOver_keeps {α : Type} (register : Printer → α)
    (h : ∀ p v n xs, register { p with bedTarget := v, waitCount := n, ignoredWords := xs }
      = register p) (d : Dialect) (w : Word) (p : Printer) :
    register (accept d (.handOver w) p) = register p := by
  obtain ⟨v, xs, hw⟩ := takeWord_keeps d w p
  rw [accept, hw]
  exact h p v _ xs

/-! ### Counts -/

theorem moveCount_acceptAll (d : Dialect) (log : List Action) (p : Printer) :
    ((printer d).acceptAll log p).moveCount
      = p.moveCount + log.countP fun a => a.target?.isSome := by
  refine count_acceptAll (fun a p => ?_) log p
  cases a with
  | handOver w => exact accept_handOver_keeps moveCount (fun _ _ _ _ => rfl) d w p
  | _ => rfl

theorem rapidCount_acceptAll (d : Dialect) (log : List Action) (p : Printer) :
    ((printer d).acceptAll log p).rapidCount = p.rapidCount + log.countP Action.isRapidMove := by
  refine count_acceptAll (fun a p => ?_) log p
  cases a with
  | handOver w => exact accept_handOver_keeps rapidCount (fun _ _ _ _ => rfl) d w p
  | _ => rfl

theorem waitCount_acceptAll (d : Dialect) (log : List Action) (p : Printer) :
    ((printer d).acceptAll log p).waitCount = p.waitCount + log.countP waits := by
  refine count_acceptAll (fun a p => ?_) log p
  cases a with
  | handOver w =>
    obtain ⟨v, xs, hw⟩ := takeWord_keeps d w p
    rw [accept, hw]
  | _ => rfl

end Printer

end Toolpath
