/-
Toolpath/Proofs/FeedRate.lean

Feed rates that are given one after the other.  One that is in force already is not set again, and
to be in force is to be equal as a number: zero is zero with either sign, and what is no number is
always new.  So of the feed rates given, those are set that change the one in force
(`rateChanges`), and the last of them is in force at the end.

When the same feed rates are given once more, some may be set again; but it is the same double that
is in force at the end (`rateAfter_rateAfter`).
-/
import Mathlib.Data.List.Destutter
import Toolpath.Proofs.Double.Equality

namespace Toolpath

/-! ### Feed rates in a row -/

/-- The feed rate `v` comes after `u` and is another one.  The two zeros are equal. -/
def Changes (u v : Float) : Prop :=
  (v != u) = true

instance : DecidableRel Changes := fun u v => inferInstanceAs (Decidable ((v != u) = true))

/-- Of the feed rates `vs`, given in this order while `f` is in force, those that are set: each one
that changes the one in force when it is given. -/
def rateChanges (f : Float) (vs : List Float) : List Float :=
  (vs.destutter' Changes f).tail

/-- The feed rate in force when `vs` have been given: the last one that was set. -/
def rateAfter (f : Float) (vs : List Float) : Float :=
  (rateChanges f vs).getLast?.getD f

@[simp] theorem rateChanges_nil (f : Float) : rateChanges f [] = [] := rfl

/-- The feed rate in force comes first, and then those that are set. -/
theorem destutter'_eq (f : Float) (vs : List Float) :
    vs.destutter' Changes f = f :: rateChanges f vs := by
  induction vs with
  | nil => rfl
  | cons v vs ih =>
    rw [rateChanges, List.destutter'_cons]
    split
    · rfl
    · exact ih

theorem rateChanges_cons (f v : Float) (vs : List Float) :
    rateChanges f (v :: vs) = if Changes f v then v :: rateChanges v vs else rateChanges f vs := by
  rw [rateChanges, List.destutter'_cons]
  split
  · exact destutter'_eq v vs
  · rfl

theorem rateAfter_cons (f v : Float) (vs : List Float) :
    rateAfter f (v :: vs) = if Changes f v then rateAfter v vs else rateAfter f vs := by
  rw [rateAfter, rateChanges_cons]
  split
  · rw [List.getLast?_cons]
    rfl
  · rfl

/-- A single feed rate is set if it is another one. -/
theorem rateChanges_singleton (f v : Float) :
    rateChanges f [v] = if Changes f v then [v] else [] :=
  rateChanges_cons f v []

theorem rateAfter_singleton (f v : Float) : rateAfter f [v] = if Changes f v then v else f :=
  rateAfter_cons f v []

/-- Feed rates given in two parts. -/
theorem rateChanges_append (f : Float) (us vs : List Float) :
    rateChanges f (us ++ vs) = rateChanges f us ++ rateChanges (rateAfter f us) vs := by
  induction us generalizing f with
  | nil => rfl
  | cons u us ih =>
    rw [List.cons_append, rateChanges_cons, rateChanges_cons, rateAfter_cons]
    split
    · rw [ih, List.cons_append]
    · exact ih f

theorem rateAfter_append (f : Float) (us vs : List Float) :
    rateAfter f (us ++ vs) = rateAfter (rateAfter f us) vs := by
  induction us generalizing f with
  | nil => rfl
  | cons u us ih =>
    rw [List.cons_append, rateAfter_cons, rateAfter_cons]
    split
    · exact ih u
    · exact ih f

/-- The last feed rate is set if it is another one. -/
theorem rateAfter_concat (f : Float) (us : List Float) (u : Float) :
    rateAfter f (us ++ [u]) = if Changes (rateAfter f us) u then u else rateAfter f us := by
  rw [rateAfter_append, rateAfter_singleton]

/-- Nothing is set just when nothing is given but the feed rate in force. -/
theorem rateChanges_eq_nil_iff {f : Float} {vs : List Float} :
    rateChanges f vs = [] ↔ ∀ v ∈ vs, ¬Changes f v := by
  induction vs with
  | nil => simp
  | cons v vs ih =>
    rw [rateChanges_cons, List.forall_mem_cons]
    split
    · next h => simp [h]
    · next h => rw [ih, and_iff_right h]

section Finite

variable {v : Float} {s : Float.Model.UnpackedFloat.Sign} {m : ℕ} {q : ℤ} {hm : 0 < m}

/-- What comes after a feed rate that is finite and not zero is another one, unless it is the same
double. -/
theorem changes_iff_ne_of_finite (hv : v.toModel.unpack = .finite s m q hm) (f : Float) :
    Changes f v ↔ f ≠ v := by
  rw [Changes, bne, Bool.not_eq_true', ← Bool.not_eq_true, Double.beq_iff_eq_of_finite hv]

/-- Such a feed rate is in force when it has been given. -/
theorem rateAfter_singleton_of_finite (hv : v.toModel.unpack = .finite s m q hm) (f : Float) :
    rateAfter f [v] = v := by
  rw [rateAfter_singleton]
  split
  · rfl
  · next same => exact not_ne_iff.1 (mt (changes_iff_ne_of_finite hv f).2 same)

theorem rateChanges_singleton_of_finite (hv : v.toModel.unpack = .finite s m q hm) (f : Float) :
    rateChanges f [v] = if f = v then [] else [v] := by
  rw [rateChanges_singleton, if_congr (changes_iff_ne_of_finite hv f) rfl rfl, ite_not]

end Finite

/-! ### The same feed rates again -/

/-- The feed rate in force is equal to the last one given, though it need not be the same double:
of two zeros with different signs the first one stays. -/
theorem changes_rateAfter_concat (f : Float) (us : List Float) (u v : Float) :
    Changes (rateAfter f (us ++ [u])) v ↔ Changes u v := by
  rw [rateAfter_concat]
  split
  · rfl
  · next same =>
    have equal : (u == rateAfter f us) = true := by simpa [Changes, bne] using same
    rw [Changes, Changes, bne, bne, Double.beq_congr equal]

/-- Feed rates that are given again lead to the feed rate in force, to the last bit.  If the last
one was set, then it is the end of the second run as well: the one before it, which is in force
then, is equal to the one that it changed in the first run. -/
theorem rateAfter_rateAfter (f : Float) (vs : List Float) :
    rateAfter (rateAfter f vs) vs = rateAfter f vs := by
  induction vs using List.reverseRecOn with
  | nil => rfl
  | append_singleton us v ih =>
    rw [rateAfter_concat f us v]
    by_cases set : Changes (rateAfter f us) v
    · rw [if_pos set, rateAfter_concat]
      rcases us.eq_nil_or_concat with rfl | ⟨us, u, rfl⟩
      · -- it is the only one
        exact ite_self v
      · rw [List.concat_eq_append] at set ⊢
        rw [changes_rateAfter_concat] at set
        rw [if_pos ((changes_rateAfter_concat v us u v).2 set)]
    · rw [if_neg set, rateAfter_concat, ih, if_neg set]

/-- A single feed rate is not set again, if it is a number. -/
theorem rateChanges_rateAfter_of_length_le_one {vs : List Float} (hl : vs.length ≤ 1)
    (hv : ∀ v ∈ vs, (v == v) = true) (f : Float) : rateChanges (rateAfter f vs) vs = [] := by
  rcases vs with - | ⟨v, - | ⟨w, vs⟩⟩
  · rfl
  · have equal : (v == v) = true := hv v List.mem_cons_self
    have last := changes_rateAfter_concat f [] v v
    rw [List.nil_append] at last
    refine rateChanges_eq_nil_iff.2 (List.forall_mem_singleton.2 ?_)
    rw [last, Changes, bne, equal]
    exact Bool.false_ne_true
  · simp at hl

end Toolpath
