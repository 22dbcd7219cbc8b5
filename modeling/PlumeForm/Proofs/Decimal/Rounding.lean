import PlumeForm.Decimal.Reader
import PlumeForm.Power

/-!
# Rounding to doubles

A number is rounded to a mantissa of at most 53 bits and an exponent, and packed as a finite double
exactly if the exponent is at most 971 (`isFinite_pack_iff`). Main statement: a number becomes
infinite exactly from half a unit below `2^1024` on (`below_round_iff`). Of the bits that rounding
drops only the first one matters for that, so a number is given by the integer part of its double
(`doubled`).
-/

namespace PlumeForm.Decimal

open Float.Model Float.Model.UnpackedFloat

/-! ## Packing -/

/-- The value is finite, with an exponent up to the bound. -/
def Below (bound : Int) : UnpackedFloat → Prop
  | .zero _ => True
  | .finite _ _ e _ => e ≤ bound
  | .infinity _ => False
  | .notANumber => False

section Packing

variable {b : BitVec Format.binary64.numBits} {u : UnpackedFloat} {bound : Int}

theorem Below.mono {bound' : Int} (h : Below bound u) (hle : bound ≤ bound') : Below bound' u := by
  cases u with
  | finite s m e hm => exact Int.le_trans h hle
  | zero s => trivial
  | infinity s => exact h
  | notANumber => exact h

theorem Below.isFinite (h : Below bound u) : u.isFinite = true := by
  cases u with
  | finite s m e hm => rfl
  | zero s => rfl
  | infinity s => exact h.elim
  | notANumber => exact h.elim

theorem below_neg_iff : Below bound u.neg ↔ Below bound u := by
  cases u <;> rfl

theorem isFinite_unpack_iff :
    (unpack .binary64 b).isFinite = true ↔ unpackExponent b ≠ -1#11 := by
  unfold UnpackedFloat.unpack
  dsimp only
  by_cases hlast : unpackExponent b = -1#11
  · rw [if_pos hlast]
    refine iff_of_false ?_ (fun hne => hne hlast)
    split <;> exact Bool.false_ne_true
  · rw [if_neg hlast]
    refine iff_of_true ?_ hlast
    by_cases hzero : unpackExponent b = 0#11
    · rw [if_pos hzero]
      by_cases hmantissa : unpackMantissa b = 0#52
      · rw [dif_pos hmantissa]
        rfl
      · rw [dif_neg hmantissa]
        rfl
    · rw [if_neg hzero]
      rfl

theorem unpackExponent_pack_zero (s : Sign) :
    unpackExponent (UnpackedFloat.pack .binary64 (.zero s)) = 0#11 :=
  unpackExponent_packComponents

theorem unpackExponent_pack_finite {s : Sign} {m : Nat} {e : Int} {hm : 0 < m} :
    unpackExponent (UnpackedFloat.pack .binary64 (.finite s m e hm)) =
      if 971 < e then -1#11
      else if m.log2 + 1 = 53 then BitVec.ofNat 11 (e + 1075).toNat else 0#11 := by
  have hbias : ((Format.binary64.exponentBias : Nat) : Int) +
      (Format.binary64.mantissaBitsWithoutImplicit : Nat) = 1075 := rfl
  have hcapacity : 2 ^ Format.binary64.exponentBits ≤ (e + 1075).toNat + 1 ↔ 971 < e := by
    rw [show 2 ^ Format.binary64.exponentBits = 2048 from rfl]
    omega
  have hbits : Format.binary64.mantissaBits = 53 := rfl
  unfold UnpackedFloat.pack
  simp only [Int.add_assoc, hbias, hcapacity, hbits]
  split
  · exact unpackExponent_packComponents
  · split <;> exact unpackExponent_packComponents

theorem unpackExponent_pack_iff :
    unpackExponent (UnpackedFloat.pack .binary64 u) ≠ -1#11 ↔ Below 971 u := by
  cases u with
  | notANumber => exact iff_of_false (fun h => h unpackExponent_packComponents) (fun h => h)
  | infinity s => exact iff_of_false (fun h => h unpackExponent_packComponents) (fun h => h)
  | zero s =>
    refine iff_of_true ?_ trivial
    rw [unpackExponent_pack_zero]
    decide
  | finite s m e hm =>
    change _ ↔ e ≤ 971
    rw [unpackExponent_pack_finite]
    by_cases h : 971 < e
    · rw [if_pos h]
      exact iff_of_false (fun hne => hne rfl) (by omega)
    · rw [if_neg h]
      refine iff_of_true ?_ (by omega)
      split
      · intro heq
        have htoNat := congrArg BitVec.toNat heq
        rw [BitVec.toNat_ofNat, Nat.mod_eq_of_lt (by omega)] at htoNat
        change _ = 2047 at htoNat
        omega
      · decide

theorem isFinite_pack_iff : (Float.Model.pack u).isFinite = true ↔ Below 971 u :=
  isFinite_unpack_iff.trans unpackExponent_pack_iff

/-- What is unpacked has at most 53 bits, and the exponent of its field; the field 0 counts as 1. -/
theorem unpack_finite_bounds {s : Sign} {m : Nat} {e : Int} {hm : 0 < m}
    (h : unpack .binary64 b = .finite s m e hm) :
    m < 2 ^ 53 ∧ e = max 1 ((unpackExponent b).toNat : Int) - 1075 := by
  have hbias : ((Format.binary64.exponentBias : Nat) : Int) = 1023 := rfl
  have hlast : unpackExponent b ≠ -1#11 := by
    rw [← isFinite_unpack_iff, h]
    rfl
  unfold UnpackedFloat.unpack at h
  dsimp only at h
  rw [if_neg hlast] at h
  by_cases hzero : unpackExponent b = 0#11
  · rw [if_pos hzero] at h
    by_cases hmantissa : unpackMantissa b = 0#52
    · rw [dif_pos hmantissa] at h
      cases h
    · rw [dif_neg hmantissa] at h
      cases h
      have hm := (unpackMantissa b).isLt
      have hfield : (unpackExponent b).toNat = 0 := congrArg BitVec.toNat hzero
      exact ⟨by omega, by omega⟩
  · rw [if_neg hzero] at h
    cases h
    have hm := (1#1 ++ unpackMantissa b).isLt
    have hfield : (unpackExponent b).toNat ≠ 0 := fun heq => hzero (BitVec.eq_of_toNat_eq heq)
    exact ⟨by omega, by omega⟩

theorem below_unpack_of_le (hfinite : (unpack .binary64 b).isFinite = true)
    (hle : max 1 ((unpackExponent b).toNat : Int) - 1075 ≤ bound) :
    Below bound (unpack .binary64 b) := by
  cases hunpack : unpack .binary64 b with
  | finite s m e hm =>
    have hexponent := (unpack_finite_bounds hunpack).2
    change e ≤ bound
    omega
  | zero s => trivial
  | infinity s =>
    rw [hunpack] at hfinite
    cases hfinite
  | notANumber =>
    rw [hunpack] at hfinite
    cases hfinite

theorem below_unpack_iff :
    Below 971 (unpack .binary64 b) ↔ (unpack .binary64 b).isFinite = true := by
  refine ⟨Below.isFinite, fun hfinite => below_unpack_of_le hfinite ?_⟩
  have hfield : (unpackExponent b).toNat ≠ 2047 := fun heq =>
    isFinite_unpack_iff.1 hfinite (BitVec.eq_of_toNat_eq (heq.trans rfl))
  have hlt : (unpackExponent b).toNat < 2048 := (unpackExponent b).isLt
  omega

theorem unpackExponent_pack_le (hbound : bound ≤ 971) (h : Below bound u) :
    ((unpackExponent (UnpackedFloat.pack .binary64 u)).toNat : Int) ≤ max 0 (bound + 1075) := by
  cases u with
  | finite s m e hm =>
    have hle : e ≤ bound := h
    rw [unpackExponent_pack_finite, if_neg (by omega)]
    split
    · rw [BitVec.toNat_ofNat]
      exact Int.le_trans (Int.ofNat_le.2 (Nat.mod_le _ _)) (by omega)
    · exact Int.le_max_left 0 _
  | zero s =>
    rw [unpackExponent_pack_zero]
    exact Int.le_max_left 0 _
  | infinity s => exact h.elim
  | notANumber => exact h.elim

/-- Packing raises no exponent above the bound, from the least exponent on. -/
theorem below_unpack_pack (hleast : -1074 ≤ bound) (hbound : bound ≤ 971) (h : Below bound u) :
    Below bound (Float.Model.pack u).unpack := by
  have hfield := unpackExponent_pack_le hbound h
  exact below_unpack_of_le (b := UnpackedFloat.pack .binary64 u)
    (isFinite_pack_iff.2 (h.mono hbound)) (by omega)

end Packing

/-! ## Rounding -/

/-- Twice the mantissa, and one more when the round bit is set. -/
def doubled (em : ExtendedMantissa) : Nat :=
  2 * em.mantissa + em.roundBit.toNat

section Rounding

variable {em : ExtendedMantissa} {s : Sign} {m : Nat} {e : Int} {acc : Accuracy}

theorem mantissa_eq (em : ExtendedMantissa) : em.mantissa = doubled em / 2 := by
  have hbit := Bool.toNat_le em.roundBit
  rw [doubled]
  omega

/-- A place to the right, the last bit becomes the round bit. -/
theorem doubled_shiftRightOne (em : ExtendedMantissa) :
    doubled em.shiftRightOne = doubled em / 2 := by
  rw [← mantissa_eq]
  rcases Nat.mod_two_eq_zero_or_one em.mantissa with h | h
  · simp [doubled, ExtendedMantissa.shiftRightOne, h]
    omega
  · simp [doubled, ExtendedMantissa.shiftRightOne, h]
    omega

theorem doubled_shiftRight (em : ExtendedMantissa) (k : Nat) :
    doubled (em >>> k) = doubled em / 2 ^ k := by
  change doubled (k.repeat ExtendedMantissa.shiftRightOne em) = _
  induction k with
  | zero => simp [Nat.repeat]
  | succ k ih => rw [Nat.repeat, doubled_shiftRightOne, ih, Nat.div_div_eq_div_mul, Nat.pow_succ]

theorem mantissa_shiftRight (em : ExtendedMantissa) (k : Nat) :
    (em >>> k).mantissa = em.mantissa / 2 ^ k := by
  rw [mantissa_eq, mantissa_eq, doubled_shiftRight, Nat.div_div_eq_div_mul, Nat.div_div_eq_div_mul,
    Nat.mul_comm]

theorem roundedMantissa_bounds (em : ExtendedMantissa) :
    em.mantissa ≤ em.roundedMantissa ∧ em.roundedMantissa ≤ em.mantissa + 1 := by
  rcases em with ⟨m, round, sticky⟩
  cases round <;> cases sticky <;>
    simp [ExtendedMantissa.roundedMantissa, ExtendedMantissa.accuracy, Accuracy.roundToNearestEven]
  omega

/-- An odd mantissa is rounded up as soon as the round bit is set. -/
theorem roundedMantissa_of_odd (h : em.mantissa % 2 = 1) :
    em.roundedMantissa = em.mantissa + em.roundBit.toNat := by
  rcases em with ⟨m, round, sticky⟩
  cases round <;> cases sticky <;>
    simp_all [ExtendedMantissa.roundedMantissa, ExtendedMantissa.accuracy,
      Accuracy.roundToNearestEven]

/-- The exponent at which a number is rounded: 53 bits are left of it, unless the exponent would be
less than the least one. -/
def roundingExponent (m : Nat) (e : Int) : Int :=
  max (m.log2 + e - 52) (-1074)

theorem targetExponent_eq (m : Nat) (e : Int) :
    Format.binary64.targetExponent (totalExponent m e) = roundingExponent m e := by
  have hbits : ((Format.binary64.mantissaBits : Nat) : Int) = 53 := rfl
  have hleast : Format.binary64.minExponent = -1074 := rfl
  unfold Format.targetExponent totalExponent roundingExponent
  omega

/-- The mantissa at the rounding exponent. -/
def shifted (m : Nat) (e : Int) (acc : Accuracy) : ExtendedMantissa :=
  ExtendedMantissa.ofMantissaAndAccuracy m acc >>> (roundingExponent m e - e).toNat

/-- A number that is not below the least one has some bits left at the rounding exponent. -/
theorem shift_pos (hm : 0 < m) (he : -1074 ≤ m.log2 + e) :
    0 < m / 2 ^ (roundingExponent m e - e).toNat := by
  refine Nat.div_pos ?_ (Nat.two_pow_pos _)
  refine Nat.le_trans (Nat.pow_le_pow_right (by decide) ?_) (Nat.log2_self_le (Nat.ne_of_gt hm))
  unfold roundingExponent
  omega

theorem mantissa_ofMantissaAndAccuracy (m : Nat) (acc : Accuracy) :
    (ExtendedMantissa.ofMantissaAndAccuracy m acc).mantissa = m := by
  cases acc with
  | exact => rfl
  | inexact o => cases o <;> rfl

theorem mantissa_shifted (m : Nat) (e : Int) (acc : Accuracy) :
    (shifted m e acc).mantissa = m / 2 ^ (roundingExponent m e - e).toNat := by
  rw [shifted, mantissa_shiftRight, mantissa_ofMantissaAndAccuracy]

theorem shiftToTargetExponent_eq (m : Nat) (e : Int) (acc : Accuracy) :
    shiftToTargetExponent .binary64 m e acc = (shifted m e acc, max e (roundingExponent m e)) := by
  have hmax : e + ((roundingExponent m e - e).toNat : Int) = max e (roundingExponent m e) := by
    omega
  unfold shiftToTargetExponent shiftToExponent
  simp only [targetExponent_eq, hmax]
  rfl

/-- The exponent of a rounded number. It is looked for twice, as rounding may carry. -/
theorem below_roundWithAccuracy {bound first : Int}
    (hfirst : max e (roundingExponent m e) = first) :
    Below bound (roundWithAccuracy .binary64 s m e acc) ↔
      (shifted m e acc).roundedMantissa = 0 ∨
        max first (roundingExponent (shifted m e acc).roundedMantissa first) ≤ bound := by
  have hleast : -1074 ≤ first := by
    unfold roundingExponent at hfirst
    omega
  generalize hrounded : (shifted m e acc).roundedMantissa = rounded
  unfold roundWithAccuracy
  rw [shiftToTargetExponent_eq, hfirst]
  dsimp only
  rw [hrounded, shiftToTargetExponent_eq]
  dsimp only
  have hlast : (shifted rounded first .exact).mantissa = 0 ↔ rounded = 0 := by
    rw [mantissa_shifted]
    constructor
    · intro h
      exact Nat.eq_zero_of_not_pos fun hpos => Nat.ne_of_gt (shift_pos hpos (by omega)) h
    · rintro rfl
      exact Nat.zero_div _
  by_cases hzero : (shifted rounded first .exact).mantissa = 0
  · rw [dif_pos hzero]
    exact iff_of_true trivial (.inl (hlast.1 hzero))
  · rw [dif_neg hzero]
    exact ⟨.inr, fun hor => hor.resolve_left fun h => hzero (hlast.2 h)⟩

/-- Rounding carries beyond 53 bits exactly from half a unit below that on. -/
theorem roundedMantissa_lt_iff (h : em.mantissa < 2 ^ 53) :
    em.roundedMantissa < 2 ^ 53 ↔ doubled em < 2 ^ 54 - 1 := by
  have hbit := Bool.toNat_le em.roundBit
  by_cases hlast : em.mantissa = 2 ^ 53 - 1
  · rw [roundedMantissa_of_odd (by omega), doubled]
    omega
  · have hbound := (roundedMantissa_bounds em).2
    rw [doubled]
    omega

theorem mantissa_shifted_lt (m : Nat) (e : Int) (acc : Accuracy) :
    (shifted m e acc).mantissa < 2 ^ 53 := by
  rw [mantissa_shifted, Nat.div_lt_iff_lt_mul (Nat.two_pow_pos _), ← Nat.pow_add]
  refine Nat.lt_of_lt_of_le Nat.lt_log2_self (Nat.pow_le_pow_right (by decide) ?_)
  unfold roundingExponent
  omega

theorem mantissa_le_rounded (m : Nat) (e : Int) (acc : Accuracy) :
    m / 2 ^ (roundingExponent m e - e).toNat ≤ (shifted m e acc).roundedMantissa := by
  rw [← mantissa_shifted m e acc]
  exact (roundedMantissa_bounds _).1

theorem log2_le_of_lt {n k : Nat} (h : n < 2 ^ (k + 1)) : n.log2 ≤ k := by
  by_cases hzero : n = 0
  · rw [hzero, Nat.log2_zero]
    exact Nat.zero_le k
  · exact Nat.le_of_lt_succ ((Nat.log2_lt hzero).2 h)

theorem log2_rounded_le (m : Nat) (e : Int) (acc : Accuracy) :
    (shifted m e acc).roundedMantissa.log2 ≤ 53 := by
  have hlt := mantissa_shifted_lt m e acc
  have hle := (roundedMantissa_bounds (shifted m e acc)).2
  exact log2_le_of_lt (by omega)

theorem below_round_of_lt {bound : Int} (hleast : -1074 < bound) (he : e < bound)
    (hm : m.log2 + e - 52 < bound) : Below bound (roundWithAccuracy .binary64 s m e acc) := by
  have hcarry := log2_rounded_le m e acc
  refine (below_roundWithAccuracy rfl).2 (.inr ?_)
  unfold roundingExponent
  omega

/-- Between the last two powers of two, only the carry decides. -/
theorem below_round_iff_of_log2 (he : e ≤ 970) (hlog : m.log2 + e = 1023) :
    Below 971 (roundWithAccuracy .binary64 s m e acc) ↔
      doubled (shifted m e acc) < 2 ^ 54 - 1 := by
  have hfirst : max e (roundingExponent m e) = 971 := by
    unfold roundingExponent
    omega
  rw [below_roundWithAccuracy hfirst, ← roundedMantissa_lt_iff (mantissa_shifted_lt m e acc)]
  generalize (shifted m e acc).roundedMantissa = rounded
  by_cases hzero : rounded = 0
  · simp [hzero]
  · rw [← Nat.log2_lt hzero]
    simp only [hzero, false_or, roundingExponent]
    omega

theorem not_below_round (hm : 0 < m) (hlog : 1024 ≤ m.log2 + e) :
    ¬ Below 971 (roundWithAccuracy .binary64 s m e acc) := by
  have hrounded : (shifted m e acc).roundedMantissa ≠ 0 :=
    Nat.ne_of_gt (Nat.lt_of_lt_of_le (shift_pos hm (by omega)) (mantissa_le_rounded m e acc))
  rw [below_roundWithAccuracy rfl]
  simp only [hrounded, false_or, roundingExponent]
  omega

/-- A number is rounded to infinity exactly from half a unit below `2^1024` on. -/
theorem below_round_iff (he : e ≤ 970) :
    Below 971 (roundWithAccuracy .binary64 s m e acc) ↔
      doubled (ExtendedMantissa.ofMantissaAndAccuracy m acc) <
        (2 ^ 54 - 1) * 2 ^ (971 - e).toNat := by
  have hm : doubled (ExtendedMantissa.ofMantissaAndAccuracy m acc) / 2 = m := by
    rw [← mantissa_eq, mantissa_ofMantissaAndAccuracy]
  generalize hd : doubled (ExtendedMantissa.ofMantissaAndAccuracy m acc) = d at hm ⊢
  generalize hk : (971 - e).toNat = k
  rcases Int.lt_trichotomy (m.log2 + e) 1023 with hsmall | hlast | hlarge
  · have hlt : m < 2 ^ (52 + k) :=
      Nat.lt_of_lt_of_le Nat.lt_log2_self (Nat.pow_le_pow_right (by decide) (by omega))
    rw [Nat.pow_add] at hlt
    exact iff_of_true (below_round_of_lt (by decide) (by omega) (by omega)) (by omega)
  · have hshift : (roundingExponent m e - e).toNat = k := by
      unfold roundingExponent
      omega
    rw [below_round_iff_of_log2 he hlast, shifted, doubled_shiftRight, hd, hshift,
      Nat.div_lt_iff_lt_mul (Nat.two_pow_pos k)]
  · have hpos : 0 < m := Nat.pos_of_ne_zero fun hzero => by
      rw [hzero, Nat.log2_zero] at hlarge
      omega
    have hle : 2 ^ (53 + k) ≤ m := Nat.le_trans
      (Nat.pow_le_pow_right (by decide) (by omega)) (Nat.log2_self_le (Nat.ne_of_gt hpos))
    rw [Nat.pow_add] at hle
    exact iff_of_false (not_below_round hpos (by omega)) (by omega)

end Rounding

end PlumeForm.Decimal
