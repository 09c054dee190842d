/-
Toolpath/Proofs/Double/Storage.lean

From the result of rounding to the double that is stored.  A double has a field for the sign, one
for the exponent and one for the mantissa; a value in the form that rounding leaves is read back
as it was put in (`unpack_pack`), unless its exponent is too large for the field, and then it is
stored as infinite.

So a number that was rounded on a step that suits it is stored as the double nearest to it, and
as infinite exactly from half a step above the largest finite double on (`Rounds`,
`rounds_stored`).  That double is the only one (`Rounds.unique`), since a double is known by what
it is read as (`eq_of_unpack_eq`).
-/
import Toolpath.Number.Decimal
import Toolpath.Proofs.Double.Rounding

namespace Toolpath.Double

open Float.Model Float.Model.UnpackedFloat

/-! ### The fields of a stored double -/

theorem unpackSign_packComponents (s : Sign) (e : BitVec 11) (m : BitVec 52) :
    Sign.ofBitVec (unpackSign (packComponents Format.binary64 s e m)) = s := by
  have top : (s.toBitVec ++ e ++ m : BitVec (1 + 11 + 52)).getLsbD 63 = s.toBitVec.getLsbD 0 := by
    rw [BitVec.getLsbD_append, if_neg (by decide), BitVec.getLsbD_append, if_neg (by decide)]
  have bit : unpackSign (packComponents Format.binary64 s e m) = s.toBitVec := by
    ext i hi
    obtain rfl : i = 0 := by omega
    simp only [unpackSign, packComponents, BitVec.getElem_cast, BitVec.getElem_extract]
    exact top
  rw [bit]
  cases s <;> rfl

/-- The first digit of a full mantissa is not stored. -/
theorem toNat_append_one (m : BitVec 52) : (1#1 ++ m).toNat = 2 ^ 52 + m.toNat := by
  rw [BitVec.toNat_append, ← Nat.shiftLeft_add_eq_or_of_lt m.isLt]
  rfl

theorem unpack_packedInfinity (s : Sign) :
    UnpackedFloat.unpack Format.binary64 (packedInfinity Format.binary64 s) = .infinity s := by
  rw [packedInfinity, UnpackedFloat.unpack]
  simp only [unpackMantissa_packComponents, unpackExponent_packComponents,
    unpackSign_packComponents]
  rfl

theorem unpack_packedZero (s : Sign) :
    UnpackedFloat.unpack Format.binary64 (packedZero Format.binary64 s) = .zero s := by
  rw [packedZero, UnpackedFloat.unpack]
  simp only [unpackMantissa_packComponents, unpackExponent_packComponents,
    unpackSign_packComponents]
  rfl

/-- A mantissa with less than 53 digits is stored with the exponent field zero. -/
theorem unpack_subnormal (s : Sign) {m : ℕ} (h0 : 0 < m) (hm : m < 2 ^ 52) :
    UnpackedFloat.unpack Format.binary64
        (packComponents Format.binary64 s 0#11 (BitVec.ofNat 52 m))
      = .finite s m (-1074) h0 := by
  have kept : (BitVec.ofNat 52 m).toNat = m := by
    rw [BitVec.toNat_ofNat, Nat.mod_eq_of_lt hm]
  have some : BitVec.ofNat 52 m ≠ 0#52 := by
    intro h
    rw [h] at kept
    exact h0.ne kept
  have notFull : 0#11 ≠ -1#11 := by decide
  rw [UnpackedFloat.unpack]
  simp only [unpackMantissa_packComponents, unpackExponent_packComponents,
    unpackSign_packComponents, notFull, some, kept, if_false, if_true, dite_false]
  rfl

/-- A mantissa with 53 digits is stored without the first. -/
theorem unpack_normal (s : Sign) {m b : ℕ} (hl : 2 ^ 52 ≤ m) (hu : m < 2 ^ 53) (hb : 0 < b)
    (hb' : b < 2047) :
    UnpackedFloat.unpack Format.binary64
        (packComponents Format.binary64 s (BitVec.ofNat 11 b) (BitVec.ofNat 52 m))
      = .finite s m (b - 1075) (by omega) := by
  -- the fields hold the exponent, and the mantissa up to its first digit
  have keptExponent : (BitVec.ofNat 11 b).toNat = b := by
    rw [BitVec.toNat_ofNat, Nat.mod_eq_of_lt (by omega)]
  have kept : (1#1 ++ BitVec.ofNat 52 m).toNat = m := by
    rw [toNat_append_one, BitVec.toNat_ofNat]
    omega
  -- the exponent field has neither of its special values
  have notZero : BitVec.ofNat 11 b ≠ 0#11 := by
    intro h
    rw [h] at keptExponent
    exact hb.ne keptExponent
  have notFull : BitVec.ofNat 11 b ≠ -1#11 := by
    intro h
    rw [h] at keptExponent
    exact hb'.ne' keptExponent
  rw [UnpackedFloat.unpack]
  simp only [unpackMantissa_packComponents, unpackExponent_packComponents,
    unpackSign_packComponents, notFull, notZero, kept, keptExponent, if_false]
  rfl

/-! ### What can be stored -/

/-- A value in the form in which it is stored. -/
def IsStored : UnpackedFloat → Prop
  | .finite _ m q _ => Canonical m q
  | _ => True

/-- Packing a finite value. -/
theorem pack_finite (s : Sign) {m : ℕ} (q : ℤ) (hm : 0 < m) :
    UnpackedFloat.pack Format.binary64 (.finite s m q hm)
      = if 2 ^ 11 ≤ (q + 1075).toNat + 1 then packedInfinity Format.binary64 s
        else if m.log2 + 1 = 53 then
          packComponents Format.binary64 s (BitVec.ofNat 11 (q + 1075).toNat) (BitVec.ofNat 52 m)
        else packComponents Format.binary64 s 0#11 (BitVec.ofNat 52 m) := by
  have field : q + 1075 = q + Format.binary64.exponentBias
      + Format.binary64.mantissaBitsWithoutImplicit := by
    show q + 1075 = q + (1023 : ℤ) + (52 : ℤ)
    omega
  rw [field]
  rfl

/-- What is in the stored form is read back as it was put in. -/
theorem unpack_pack {u : UnpackedFloat} (h : IsStored u) : (Float.Model.pack u).unpack = u := by
  show UnpackedFloat.unpack Format.binary64 (UnpackedFloat.pack Format.binary64 u) = u
  cases u with
  | infinity s => exact unpack_packedInfinity s
  | notANumber => rfl
  | zero s => exact unpack_packedZero s
  | finite s m q hm =>
    have hc : Canonical m q := h
    have least := hc.min_le
    have most := hc.le_max
    rw [pack_finite, if_neg (by omega)]
    by_cases hl : 2 ^ 52 ≤ m
    · -- 53 digits, of which the first is not stored
      have digits : m.log2 = 52 := (Nat.log2_eq_iff hm.ne').2 ⟨hl, hc.lt⟩
      rw [if_pos (by rw [digits]), unpack_normal s hl hc.lt (by omega) (by omega)]
      simp only [finite.injEq, true_and]
      omega
    · -- fewer digits, at the least step
      have digits : m.log2 < 52 := (Nat.log2_lt hm.ne').2 (not_le.1 hl)
      obtain rfl : q = -1074 := hc.full.resolve_right hl
      rw [if_neg (by omega), unpack_subnormal s hm (not_le.1 hl)]

/-- An exponent that is too large for its field is stored as infinite. -/
theorem pack_of_large (s : Sign) {m : ℕ} {q : ℤ} (hm : 0 < m) (hq : 972 ≤ q) :
    Float.Model.pack (.finite s m q hm) = Float.Model.pack (.infinity s) := by
  have bits : UnpackedFloat.pack Format.binary64 (.finite s m q hm)
      = UnpackedFloat.pack Format.binary64 (.infinity s) := by
    rw [pack_finite, if_pos (by omega)]
    rfl
  simp only [Float.Model.pack, bits]

/-! ### Every double is stored so -/

/-- The three fields are the whole of a stored double. -/
theorem packComponents_fields (b : BitVec Format.binary64.numBits) :
    packComponents Format.binary64 (Sign.ofBitVec (unpackSign b)) (unpackExponent b)
      (unpackMantissa b) = b := by
  have bit : ∀ v : BitVec 1, (Sign.ofBitVec v).toBitVec = v := by decide
  rw [packComponents, bit]
  show (b.extractLsb' 63 1 ++ b.extractLsb' 52 11 ++ b.extractLsb' 0 52 : BitVec (1 + 11 + 52)) = b
  rw [BitVec.extractLsb'_append_extractLsb'_eq_extractLsb' (by decide),
    BitVec.extractLsb'_append_extractLsb'_eq_extractLsb' (by decide)]
  exact BitVec.extractLsb'_eq_self

/-- Whatever the fields are, they are those of a value in the stored form, if they are not those of
a special value that is no number. -/
theorem exists_pack_eq (s : Sign) (e : BitVec 11) (m : BitVec 52) (h : e = -1#11 → m = 0#52) :
    ∃ u, IsStored u ∧
      UnpackedFloat.pack Format.binary64 u = packComponents Format.binary64 s e m := by
  have hm := m.isLt
  have he := e.isLt
  -- the exponent field is full, or zero, or neither
  by_cases full : e = -1#11
  · obtain rfl := h full
    subst full
    exact ⟨.infinity s, trivial, rfl⟩
  have below : e.toNat ≠ 2047 := fun h => full (BitVec.eq_of_toNat_eq h)
  by_cases least : e = 0#11
  · subst least
    by_cases none : m = 0#52
    · subst none
      exact ⟨.zero s, trivial, rfl⟩
    · -- fewer than 53 digits
      have h0 : 0 < m.toNat := Nat.pos_of_ne_zero fun h => none (BitVec.eq_of_toNat_eq h)
      have digits : m.toNat.log2 < 52 := (Nat.log2_lt h0.ne').2 hm
      refine ⟨.finite s m.toNat (-1074) h0, ⟨⟨by omega, le_rfl, by omega⟩, Or.inl rfl⟩, ?_⟩
      rw [pack_finite, if_neg (by decide), if_neg (by omega), BitVec.ofNat_toNat,
        BitVec.setWidth_eq]
  · -- 53 digits, of which the first is not stored
    have above : 0 < e.toNat := Nat.pos_of_ne_zero fun h => least (BitVec.eq_of_toNat_eq h)
    have h0 : 0 < 2 ^ 52 + m.toNat := by omega
    have digits : (2 ^ 52 + m.toNat).log2 = 52 := (Nat.log2_eq_iff h0.ne').2 ⟨by omega, by omega⟩
    refine ⟨.finite s (2 ^ 52 + m.toNat) (e.toNat - 1075) h0,
      ⟨⟨by omega, by omega, by omega⟩, Or.inr (by omega)⟩, ?_⟩
    have field : ((e.toNat : ℤ) - 1075 + 1075).toNat = e.toNat := by omega
    have kept : BitVec.ofNat 52 (2 ^ 52 + m.toNat) = m :=
      BitVec.eq_of_toNat_eq (by rw [BitVec.toNat_ofNat]; omega)
    rw [pack_finite, field, if_neg (by omega), if_pos (by rw [digits]), kept, BitVec.ofNat_toNat,
      BitVec.setWidth_eq]

/-- Every double is packed from a value in the stored form. -/
theorem exists_isStored (x : Float.Model) : ∃ u, IsStored u ∧ Float.Model.pack u = x := by
  have same : ∀ u, UnpackedFloat.pack Format.binary64 u = x.toBits.toBitVec →
      Float.Model.pack u = x := by
    rintro u hu
    cases x
    simp only [Float.Model.pack, hu]
  by_cases number : @unpackExponent Format.binary64 x.toBits.toBitVec = -1#11 →
      @unpackMantissa Format.binary64 x.toBits.toBitVec = 0#52
  · obtain ⟨u, hu, eq⟩ := exists_pack_eq _ _ _ number
    exact ⟨u, hu, same u (eq.trans (packComponents_fields _))⟩
  · obtain ⟨he, hm⟩ := Classical.not_imp.1 number
    exact ⟨.notANumber, trivial, same _ (x.valid.eq_packedNaN he hm).symm⟩

/-- What a double is read as is in the stored form. -/
theorem isStored_unpack (x : Float) : IsStored x.toModel.unpack := by
  obtain ⟨u, hu, hx⟩ := exists_isStored x.toModel
  rw [← hx, unpack_pack hu]
  exact hu

theorem canonical_of_unpack {x : Float} {s : Sign} {m : ℕ} {q : ℤ} {hm : 0 < m}
    (hx : x.toModel.unpack = .finite s m q hm) : Canonical m q := by
  have stored := isStored_unpack x
  rwa [hx] at stored

/-- A double is packed from what it is read as, -/
theorem ofModel_pack_unpack (x : Float) : Float.ofModel (.pack x.toModel.unpack) = x := by
  obtain ⟨u, hu, hx⟩ := exists_isStored x.toModel
  have model : Float.Model.pack x.toModel.unpack = x.toModel := by
    rw [← hx, unpack_pack hu]
  rw [model]

/-- and so it is known by that. -/
theorem eq_of_unpack_eq {x y : Float} (h : x.toModel.unpack = y.toModel.unpack) : x = y := by
  rw [← ofModel_pack_unpack x, h, ofModel_pack_unpack y]

/-! ### The double nearest to a number -/

/-- The largest finite double and half a step. -/
def limit : ℚ := (2 ^ 53 - 1 / 2) * 2 ^ (971 : ℤ)

/-- `u` is the double nearest to the number with this sign and the size `r`, and of two that are
equally near the one with an even mantissa.  A size from `limit` on is infinite; zero and infinity
keep the sign. -/
def RoundsTo (negative : Bool) (r : ℚ) : UnpackedFloat → Prop
  | .notANumber => False
  | .infinity s => isMinus s = negative ∧ limit ≤ r
  | .zero s => isMinus s = negative ∧ r < limit ∧ Nearest r 0 (-1074)
  | .finite s m q _ => isMinus s = negative ∧ r < limit ∧ Canonical m q ∧ Nearest r m q

/-- The same of a double. -/
def Rounds (negative : Bool) (r : ℚ) (x : Float) : Prop :=
  RoundsTo negative r x.toModel.unpack

theorem RoundsTo.isStored {negative : Bool} {r : ℚ} {u : UnpackedFloat}
    (h : RoundsTo negative r u) : IsStored u := by
  cases u with
  | finite s m q hm => exact h.2.2.1
  | _ => trivial

theorem rounds_pack {negative : Bool} {r : ℚ} {u : UnpackedFloat} (h : RoundsTo negative r u) :
    Rounds negative r (.ofModel (.pack u)) := by
  show RoundsTo negative r (Float.Model.pack u).unpack
  rwa [unpack_pack h.isStored]

theorem RoundsTo.neg {negative : Bool} {r : ℚ} {u : UnpackedFloat} (h : RoundsTo negative r u) :
    RoundsTo (! negative) r u.neg := by
  have turn : ∀ s : Sign, isMinus (-s) = ! isMinus s := by
    intro s
    cases s <;> rfl
  cases u with
  | notANumber => exact h
  | infinity s => exact ⟨(turn s).trans (congrArg _ h.1), h.2⟩
  | zero s => exact ⟨(turn s).trans (congrArg _ h.1), h.2⟩
  | finite s m q hm => exact ⟨(turn s).trans (congrArg _ h.1), h.2⟩

/-- The opposite of the double nearest to a number is nearest to the opposite number. -/
theorem Rounds.neg {negative : Bool} {r : ℚ} {x : Float} (h : Rounds negative r x) :
    Rounds (! negative) r (-x) := by
  show Rounds (! negative) r (.ofModel (.pack x.toModel.unpack.neg))
  exact rounds_pack (RoundsTo.neg h)

theorem RoundsTo.unique {negative : Bool} {r : ℚ} {u v : UnpackedFloat}
    (hu : RoundsTo negative r u) (hv : RoundsTo negative r v) : u = v := by
  have sign : ∀ {s s' : Sign}, isMinus s = negative → isMinus s' = negative → s = s' := by
    rintro (- | -) (- | -) rfl h
    · rfl
    · cases h
    · cases h
    · rfl
  have zero : Canonical 0 (-1074) := ⟨⟨by decide, le_rfl, by decide⟩, Or.inl rfl⟩
  cases u with
  | notANumber => exact hu.elim
  | infinity s =>
    cases v with
    | notANumber => exact hv.elim
    | infinity s' => rw [sign hu.1 hv.1]
    | zero s' => exact absurd hv.2.1 (not_lt.2 hu.2)
    | finite s' m' q' h0' => exact absurd hv.2.1 (not_lt.2 hu.2)
  | zero s =>
    cases v with
    | notANumber => exact hv.elim
    | infinity s' => exact absurd hu.2.1 (not_lt.2 hv.2)
    | zero s' => rw [sign hu.1 hv.1]
    | finite s' m' q' h0' =>
      have same := Nearest.unique zero hv.2.2.1 hu.2.2 hv.2.2.2
      exact absurd same.1 h0'.ne
  | finite s m q h0 =>
    cases v with
    | notANumber => exact hv.elim
    | infinity s' => exact absurd hu.2.1 (not_lt.2 hv.2)
    | zero s' =>
      have same := Nearest.unique zero hu.2.2.1 hv.2.2 hu.2.2.2
      exact absurd same.1 h0.ne
    | finite s' m' q' h0' =>
      obtain ⟨rfl, rfl⟩ := Nearest.unique hu.2.2.1 hv.2.2.1 hu.2.2.2 hv.2.2.2
      rw [sign hu.1 hv.1]

/-- The double nearest to a number is the only one. -/
theorem Rounds.unique {negative : Bool} {r : ℚ} {x y : Float} (hx : Rounds negative r x)
    (hy : Rounds negative r y) : x = y :=
  eq_of_unpack_eq (RoundsTo.unique hx hy)

/-! ### From rounding to the double -/

section Suited

variable {r : ℚ} {n : ℕ} {t : ℤ}

/-- Rounding keeps 53 digits, or the least step. -/
theorem Suits.full_of_nearestEven (hs : Suits r t) (hn : NearestEven (r / 2 ^ t) n) :
    t = -1074 ∨ 2 ^ 52 ≤ n := by
  apply hs.full.imp_right
  intro hl
  have near := (abs_le.1 hn.near).2
  have above : (2 : ℚ) ^ 52 < n + 1 := by linarith
  exact Nat.lt_succ_iff.1 (by exact_mod_cast above)

/-- What is not rounded up to `2 ^ 53` is less than half a unit below it: the middle goes up, since
`2 ^ 53 - 1` is odd. -/
theorem NearestEven.lt_of_lt_two_pow {x : ℚ} (h : NearestEven x n) (hlt : n < 2 ^ 53) :
    x < 2 ^ 53 - 1 / 2 := by
  have near := (abs_le.1 h.near).2
  rcases (Nat.le_sub_one_of_lt hlt).lt_or_eq with hless | rfl
  · have small : (n : ℚ) + 2 ≤ 2 ^ 53 := by
      have hn : n + 2 ≤ 2 ^ 53 := by omega
      exact_mod_cast hn
    linarith
  · have off : |x - ((2 ^ 53 - 1 : ℕ) : ℚ)| ≠ 1 / 2 := by
      intro he
      exact absurd (h.even he) (by decide)
    have less := (abs_lt.1 (lt_of_le_of_ne h.near off)).2
    norm_num at less ⊢
    linarith

theorem NearestEven.le_of_two_pow {x : ℚ} (h : NearestEven x (2 ^ 53)) : 2 ^ 53 - 1 / 2 ≤ x := by
  have near := (abs_le.1 h.near).1
  push_cast at near
  linarith

/-- Below the last step, or on it and not rounded up to `2 ^ 53`, a number is below the limit. -/
theorem Suits.lt_limit (hs : Suits r t) (hn : NearestEven (r / 2 ^ t) n)
    (h : t ≤ 970 ∨ t = 971 ∧ n < 2 ^ 53) : r < limit := by
  rcases h with ht | ⟨rfl, hlt⟩
  · calc r < 2 ^ 53 * 2 ^ t := (div_lt_iff₀ (two_zpow_pos t)).1 hs.lt
      _ ≤ 2 ^ 53 * 2 ^ (970 : ℤ) := by
        gcongr
        exact one_le_two
      _ < limit := by
        have positive := two_zpow_pos 970
        rw [limit, show (971 : ℤ) = 970 + 1 by rfl, zpow_add_one₀ two_ne_zero]
        generalize (2 : ℚ) ^ (970 : ℤ) = step at positive ⊢
        linarith
  · exact (div_lt_iff₀ (two_zpow_pos _)).1 (hn.lt_of_lt_two_pow hlt)

/-- Above the last step, or rounded up to `2 ^ 53` on it, a number is at the limit or above. -/
theorem Suits.limit_le (hs : Suits r t) (hn : NearestEven (r / 2 ^ t) n)
    (h : 972 ≤ t ∨ t = 971 ∧ n = 2 ^ 53) : limit ≤ r := by
  rcases h with ht | ⟨rfl, rfl⟩
  · have full := hs.full.resolve_left (by omega)
    calc limit ≤ 2 ^ 52 * 2 ^ (972 : ℤ) := by
          have positive := two_zpow_pos 971
          rw [limit, show (972 : ℤ) = 971 + 1 by rfl, zpow_add_one₀ two_ne_zero]
          generalize (2 : ℚ) ^ (971 : ℤ) = step at positive ⊢
          linarith
      _ ≤ 2 ^ 52 * 2 ^ t := by
        gcongr
        exact one_le_two
      _ ≤ r := (le_div_iff₀ (two_zpow_pos t)).1 full
  · exact (le_div_iff₀ (two_zpow_pos _)).1 hn.le_of_two_pow

/-- Being nearest is about the number `m · 2 ^ q` and about whether `m` is even. -/
theorem Nearest.congr {m m' : ℕ} {q q' : ℤ} (h : Nearest r m q)
    (he : (m : ℚ) * 2 ^ q = m' * 2 ^ q') (hm : Even m → Even m') : Nearest r m' q' := by
  intro k p hk
  have near := h k p hk
  rw [he] at near
  refine ⟨near.1, ?_⟩
  intro hd
  exact (near.2 hd).imp_right hm

/-- A number that was rounded on a step that suits it is stored as the nearest double. -/
theorem rounds_stored (s : Sign) (hs : Suits r t) (hn : NearestEven (r / 2 ^ t) n) :
    Rounds (isMinus s) r (.ofModel (.pack (stored s n t))) := by
  have least := hs.min_le
  have nearest := nearest_of_nearestEven hn hs
  have full := hs.full_of_nearestEven hn
  rcases (hn.le_two_pow hs.lt).lt_or_eq with hlt | rfl
  · rw [stored, if_neg hlt.ne]
    rcases Nat.eq_zero_or_pos n with rfl | hpos
    · -- only the least step leaves nothing
      rw [dif_pos rfl]
      have ht : t = -1074 := full.resolve_right (by decide)
      exact rounds_pack ⟨rfl, hs.lt_limit hn (by omega), nearest.congr (by simp) id⟩
    · rw [dif_neg hpos.ne']
      by_cases ht : t ≤ 971
      · exact rounds_pack ⟨rfl, hs.lt_limit hn (by omega), ⟨⟨hlt, least, ht⟩, full⟩, nearest⟩
      · rw [pack_of_large s hpos (by omega)]
        exact rounds_pack ⟨rfl, hs.limit_le hn (by omega)⟩
  · -- the mantissa was rounded up to one digit more
    rw [stored, if_pos rfl]
    by_cases ht : t ≤ 970
    · refine rounds_pack ⟨rfl, hs.lt_limit hn (Or.inl ht),
        ⟨⟨by decide, by omega, by omega⟩, Or.inr le_rfl⟩, nearest.congr ?_ fun _ => by decide⟩
      rw [zpow_add₀ two_ne_zero]
      push_cast
      ring
    · rw [pack_of_large s (by decide) (by omega)]
      exact rounds_pack ⟨rfl, hs.limit_le hn (by omega)⟩

end Suited

end Toolpath.Double
