import PlumeForm.Proofs.Decimal.Literals
import PlumeForm.Proofs.Decimal.Rounding
import Mathlib.Algebra.Order.Field.Power
import Mathlib.Data.Rat.Cast.Order
import Mathlib.Tactic.NormNum
import Mathlib.Tactic.Ring

/-!
# Literals that overflow

A numeral denotes a finite double exactly if it is less than `2^1024 - 2^970`, which is half a unit
above the largest double (`Numeral.isFinite_toFloat_iff`), and so does a literal, whatever its sign
(`Literal.isFinite_toFloat_iff`).
-/

namespace PlumeForm.Decimal

open Float.Model Float.Model.UnpackedFloat

/-- The number that a numeral stands for. -/
def Numeral.value (n : Numeral) : ℚ :=
  n.digits * 10 ^ n.exponent

/-- The least number that is too large for a double: half a unit above the largest one. -/
def overflow : ℕ := (2 ^ 54 - 1) * 2 ^ 970

/-! ## Few digits and a small power -/

theorem below_ofUInt64 {n : UInt64} (h : n.toNat < 2 ^ 53) :
    Below 1 (Float.Model.ofUInt64 n).unpack := by
  refine below_unpack_pack (by decide) (by decide) ?_
  unfold UnpackedFloat.ofUInt64 UnpackedFloat.ofNat UnpackedFloat.ofInt UnpackedFloat.normalize
  cases hcompare : compare (n.toNat : Int) 0 with
  | lt => exact absurd (Int.compare_eq_lt.1 hcompare) (by omega)
  | eq => trivial
  | gt =>
    simp only [Int.toNat_natCast, UnpackedFloat.round, decreaseExponent]
    generalize (0 - Format.binary64.targetExponent (totalExponent n.toNat 0)).toNat = k
    have hlog : (n.toNat <<< k).log2 ≤ 52 + k := by
      refine log2_le_of_lt ?_
      rw [Nat.shiftLeft_eq, Nat.add_right_comm, Nat.pow_add]
      exact Nat.mul_lt_mul_of_pos_right h (Nat.two_pow_pos k)
    exact below_round_of_lt (by decide) (by omega) (by omega)

/-- The exponent of a finite value other than zero. -/
def exponent? : UnpackedFloat → Option Int
  | .finite _ _ e _ => some e
  | _ => none

/-- The powers of ten that are doubles themselves. -/
theorem exponent?_powerOfTen : ∀ k : Fin 23,
    ∃ e ∈ exponent? (getElem Float.exactlyRepresentablePowersOfTen k.val k.isLt).toModel.unpack,
      -52 ≤ e ∧ e ≤ 21 := by
  decide +kernel

section Small

variable {m n : Nat} {e f : Int} {hm : 0 < m} {hn : 0 < n} {s t : Sign}

theorem mul_finite :
    UnpackedFloat.mul .binary64 (.finite s m e hm) (.finite t n f hn) =
      roundWithAccuracy .binary64 (s * t) (m * n) (e + f) .exact := rfl

/-- The exponent of a quotient; the numerator is shifted up to it before the division. -/
def quotientExponent (m n : Nat) (e f : Int) : Int :=
  min (e - f) (Format.binary64.targetExponent (totalExponent m e - totalExponent n f))

/-- The numerator of a quotient at its exponent. -/
def numerator (m n : Nat) (e f : Int) : Nat :=
  m <<< (e - f - quotientExponent m n e f).toNat

theorem quotientExponent_le (m n : Nat) (e f : Int) : quotientExponent m n e f ≤ e - f :=
  Int.min_le_left _ _

theorem div_finite :
    UnpackedFloat.div .binary64 (.finite s m e hm) (.finite t n f hn) =
      roundWithAccuracy .binary64 (s / t) (numerator m n e f / n) (quotientExponent m n e f)
        (accuracyOfFraction (numerator m n e f % n) n) := rfl

theorem below_mul (hmbits : m < 2 ^ 53) (hnbits : n < 2 ^ 53) (he : e ≤ 1) (hf : f ≤ 21) :
    Below 971 (UnpackedFloat.mul .binary64 (.finite s m e hm) (.finite t n f hn)) := by
  have hlog : (m * n).log2 ≤ 105 := by
    refine log2_le_of_lt ?_
    calc m * n < 2 ^ 53 * 2 ^ 53 := Nat.mul_lt_mul_of_lt_of_lt hmbits hnbits
      _ = 2 ^ 106 := (Nat.pow_add 2 53 53).symm
  rw [mul_finite]
  exact below_round_of_lt (by decide) (by omega) (by omega)

theorem below_div (hmbits : m < 2 ^ 53) (he : e ≤ 1) (hf : -52 ≤ f) :
    Below 971 (UnpackedFloat.div .binary64 (.finite s m e hm) (.finite t n f hn)) := by
  have hle := quotientExponent_le m n e f
  have hlog : (numerator m n e f / n).log2 ≤ 52 + (e - f - quotientExponent m n e f).toNat := by
    refine log2_le_of_lt (Nat.lt_of_le_of_lt (Nat.div_le_self _ _) ?_)
    rw [numerator, Nat.shiftLeft_eq, Nat.add_right_comm, Nat.pow_add]
    exact Nat.mul_lt_mul_of_pos_right hmbits (Nat.two_pow_pos _)
  rw [div_finite]
  exact below_round_of_lt (by decide) (by omega) (by omega)

/-- Numbers of at most 53 bits and small powers of ten have finite products and quotients. -/
theorem isFinite_mul_div {x p : Float} (hx : Below 1 x.toModel.unpack)
    (hp : f ∈ exponent? p.toModel.unpack) (hlow : -52 ≤ f) (hhigh : f ≤ 21) :
    (x * p).isFinite = true ∧ (x / p).isFinite = true := by
  have hmul : (x * p).isFinite = true ↔
      Below 971 (UnpackedFloat.mul .binary64 x.toModel.unpack p.toModel.unpack) :=
    isFinite_pack_iff
  have hdiv : (x / p).isFinite = true ↔
      Below 971 (UnpackedFloat.div .binary64 x.toModel.unpack p.toModel.unpack) :=
    isFinite_pack_iff
  rw [hmul, hdiv]
  cases hunpacked : p.toModel.unpack with
  | finite t n _ hn =>
    rw [hunpacked] at hp
    cases hp
    have hnbits := (unpack_finite_bounds hunpacked).1
    cases hx' : x.toModel.unpack with
    | finite s m e hm =>
      rw [hx'] at hx
      have hmbits := (unpack_finite_bounds hx').1
      exact ⟨below_mul hmbits hnbits hx hhigh, below_div hmbits hx hlow⟩
    | zero s => exact ⟨trivial, trivial⟩
    | infinity s =>
      rw [hx'] at hx
      exact hx.elim
    | notANumber =>
      rw [hx'] at hx
      exact hx.elim
  | _ =>
    rw [hunpacked] at hp
    cases hp

/-- Few digits and a small power make no large number. -/
theorem isFinite_ofScientific_of_small {digits power : Nat} (negative : Bool)
    (hdigits : digits < 2 ^ 53) (hpower : power ≤ 22) :
    (Float.ofScientific digits negative power).isFinite = true := by
  obtain ⟨f, hf, hlow, hhigh⟩ := exponent?_powerOfTen ⟨power, by omega⟩
  have hx : Below 1 (digits.toUInt64.toFloat).toModel.unpack := by
    refine below_ofUInt64 ?_
    rw [Nat.toUInt64_eq, UInt64.toNat_ofNat']
    exact Nat.lt_of_le_of_lt (Nat.mod_le _ _) hdigits
  obtain ⟨hmul, hdiv⟩ := isFinite_mul_div hx hf hlow hhigh
  unfold Float.ofScientific
  rw [dif_pos ⟨hdigits, hpower⟩]
  dsimp only
  split
  · exact hdiv
  · exact hmul

end Small

/-! ## Numerals -/

theorem overflow_pos : 0 < overflow := by
  unfold overflow
  positivity

-- The exponents stay variables in the next two lemmas: with numerals the powers would be computed.

theorem pred_mul_le {a b k : ℕ} (h : a + b ≤ k) : (2 ^ a - 1) * 2 ^ b ≤ 2 ^ k :=
  calc (2 ^ a - 1) * 2 ^ b ≤ 2 ^ a * 2 ^ b := Nat.mul_le_mul_right _ (Nat.sub_le _ _)
    _ = 2 ^ (a + b) := (Nat.pow_add 2 a b).symm
    _ ≤ 2 ^ k := Nat.pow_le_pow_right (by decide) h

theorem le_mul_pow {a b k : ℕ} (ha : 0 < a) (h : k ≤ b) : 2 ^ k ≤ a * 2 ^ b :=
  calc 2 ^ k ≤ 2 ^ b := Nat.pow_le_pow_right (by decide) h
    _ ≤ a * 2 ^ b := Nat.le_mul_of_pos_left _ ha

theorem overflow_le {k : ℕ} (h : 54 + 970 ≤ k) : overflow ≤ 2 ^ k :=
  overflow.eq_1.trans_le (pred_mul_le (a := 54) (b := 970) h)

theorem le_overflow {k : ℕ} (h : k ≤ 970) : 2 ^ k ≤ overflow :=
  (le_mul_pow (by decide) h).trans_eq overflow.eq_1.symm

theorem value_lt_overflow_iff_of_nonneg {n : Numeral} {k : ℕ} (h : n.exponent = k) :
    n.value < overflow ↔ n.digits * 10 ^ k < overflow := by
  rw [Numeral.value, h, zpow_natCast]
  exact_mod_cast Iff.rfl

theorem value_lt_overflow_iff_of_neg {n : Numeral} {k : ℕ} (h : n.exponent = -k) :
    n.value < overflow ↔ n.digits < overflow * 10 ^ k := by
  have hpower : (0 : ℚ) < 10 ^ k := by positivity
  rw [Numeral.value, h, zpow_neg, zpow_natCast, ← div_eq_mul_inv, div_lt_iff₀ hpower]
  exact_mod_cast Iff.rfl

/-- The remainder of a division decides the round bit. -/
theorem doubled_fraction {n d : ℕ} (hd : 0 < d) :
    doubled (ExtendedMantissa.ofMantissaAndAccuracy (n / d) (accuracyOfFraction (n % d) d)) =
      2 * n / d := by
  have hsplit : 2 * n = d * (2 * (n / d)) + 2 * (n % d) := by
    have := Nat.div_add_mod n d
    calc 2 * n = 2 * (d * (n / d) + n % d) := by rw [this]
      _ = d * (2 * (n / d)) + 2 * (n % d) := by ring
  rw [hsplit, Nat.mul_add_div hd]
  unfold accuracyOfFraction
  by_cases hzero : n % d = 0
  · rw [if_pos hzero, hzero]
    simp [ExtendedMantissa.ofMantissaAndAccuracy, doubled]
  · rw [if_neg hzero]
    have hlt := Nat.mod_lt n hd
    cases hcompare : compare (2 * (n % d)) d with
    | lt =>
      have := Nat.compare_eq_lt.1 hcompare
      rw [Nat.div_eq_of_lt this]
      rfl
    | eq =>
      have := Nat.compare_eq_eq.1 hcompare
      rw [this, Nat.div_self hd]
      rfl
    | gt =>
      have := Nat.compare_eq_gt.1 hcompare
      have hone : 2 * (n % d) / d = 1 := Nat.div_eq_of_lt_le (by omega) (by omega)
      rw [hone]
      rfl

/-- Both sides of a comparison at a rounding exponent, without their powers of two. -/
theorem doubled_lt_iff (a b j k : ℕ) :
    2 * (a * 2 ^ k) < b * 2 ^ (j + 1 + k) ↔ a < b * 2 ^ j := by
  have hfactor : 0 < 2 * 2 ^ k := Nat.mul_pos (by decide) (Nat.two_pow_pos k)
  have hleft : 2 * (a * 2 ^ k) = a * (2 * 2 ^ k) := by ring
  have hright : b * 2 ^ (j + 1 + k) = b * 2 ^ j * (2 * 2 ^ k) := by ring
  rw [hleft, hright, Nat.mul_lt_mul_right hfactor]

theorem doubled_exact (m : ℕ) :
    doubled (ExtendedMantissa.ofMantissaAndAccuracy m .exact) = 2 * m := rfl

/-- Digits with zeros behind them. -/
theorem below_mul_power_iff {digits k power : ℕ} (hm : 0 < digits <<< k) (hn : 0 < 10 ^ power) :
    Below 971 (UnpackedFloat.mul .binary64 (.finite .positive (digits <<< k) (-k) hm)
        (.finite .positive (10 ^ power) 0 hn)) ↔ digits * 10 ^ power < overflow := by
  have hexponent : (971 - (-k + 0) : Int).toNat = 970 + 1 + k := by omega
  rw [mul_finite, below_round_iff (by omega), doubled_exact, Nat.shiftLeft_eq, Nat.mul_right_comm,
    hexponent, doubled_lt_iff, ← overflow.eq_1]

/-- Digits with a point among them or before them. -/
theorem below_div_power_iff {digits power : ℕ} (hm : 0 < digits) (hn : 0 < 10 ^ power) :
    Below 971 (UnpackedFloat.div .binary64 (.finite .positive digits 0 hm)
        (.finite .positive (10 ^ power) 0 hn)) ↔ digits < overflow * 10 ^ power := by
  have hle := quotientExponent_le digits (10 ^ power) 0 0
  rw [div_finite, below_round_iff (by omega), doubled_fraction hn, Nat.div_lt_iff_lt_mul hn,
    numerator, Nat.shiftLeft_eq]
  generalize quotientExponent digits (10 ^ power) 0 0 = exponent at hle ⊢
  have hexponent : (971 - exponent).toNat = 970 + 1 + (0 - 0 - exponent).toNat := by omega
  rw [hexponent, Nat.mul_right_comm (2 ^ 54 - 1), doubled_lt_iff, Nat.mul_right_comm,
    ← overflow.eq_1]

theorem below_ofScientific_iff (n : Numeral) :
    Below 971 (UnpackedFloat.ofScientific .binary64 n.digits n.exponent) ↔ n.value < overflow := by
  have hbits : (2 : Int) ^ Format.binary64.exponentBits = 2048 := rfl
  unfold UnpackedFloat.ofScientific
  rw [hbits]
  by_cases hzero : n.digits = 0
  · rw [dif_pos hzero, Numeral.value, hzero, Nat.cast_zero, zero_mul]
    exact iff_of_true trivial (by exact_mod_cast overflow_pos)
  have hpos : 0 < n.digits := Nat.pos_of_ne_zero hzero
  rw [dif_neg hzero]
  by_cases hlarge : n.exponent > 2048
  · obtain ⟨k, hk⟩ := Int.eq_ofNat_of_zero_le (show 0 ≤ n.exponent by omega)
    rw [if_pos hlarge, value_lt_overflow_iff_of_nonneg hk]
    refine iff_of_false (fun h => h) (Nat.not_lt.2 ?_)
    calc overflow ≤ 2 ^ k := overflow_le (by omega)
      _ ≤ 10 ^ k := Nat.pow_le_pow_left (by decide) k
      _ ≤ n.digits * 10 ^ k := Nat.le_mul_of_pos_left _ hpos
  rw [if_neg hlarge]
  by_cases hsmall : n.exponent < -(2048 + n.digits.log2)
  · obtain ⟨k, hk⟩ := Int.eq_ofNat_of_zero_le (show 0 ≤ -n.exponent by omega)
    rw [if_pos hsmall, value_lt_overflow_iff_of_neg (k := k) (by omega)]
    refine iff_of_true trivial ?_
    calc n.digits < 2 ^ (n.digits.log2 + 1) := Nat.lt_log2_self
      _ ≤ 2 ^ k := Nat.pow_le_pow_right (by decide) (by omega)
      _ ≤ 10 ^ k := Nat.pow_le_pow_left (by decide) k
      _ ≤ overflow * 10 ^ k := Nat.le_mul_of_pos_left _ overflow_pos
  rw [if_neg hsmall]
  by_cases hnonneg : 0 ≤ n.exponent
  · rw [if_pos hnonneg, value_lt_overflow_iff_of_nonneg (Int.toNat_of_nonneg hnonneg).symm]
    exact below_mul_power_iff _ _
  · rw [if_neg hnonneg, value_lt_overflow_iff_of_neg (k := (-n.exponent).toNat) (by omega)]
    exact below_div_power_iff _ _

theorem value_lt_overflow_of_small {n : Numeral} (hdigits : n.digits < 2 ^ 53)
    (hpower : n.exponent.natAbs ≤ 22) : n.value < overflow := by
  rcases Int.eq_nat_or_neg n.exponent with ⟨k, hk | hk⟩
  · rw [value_lt_overflow_iff_of_nonneg hk]
    calc n.digits * 10 ^ k < 2 ^ 53 * 10 ^ k :=
          Nat.mul_lt_mul_of_pos_right hdigits (Nat.pow_pos (by decide))
      _ ≤ 2 ^ 53 * 10 ^ 22 := Nat.mul_le_mul_left _ (Nat.pow_le_pow_right (by decide) (by omega))
      _ ≤ 2 ^ 141 := by decide
      _ ≤ overflow := le_overflow (by decide)
  · rw [value_lt_overflow_iff_of_neg hk]
    calc n.digits < 2 ^ 53 := hdigits
      _ ≤ overflow := le_overflow (by decide)
      _ ≤ overflow * 10 ^ k := Nat.le_mul_of_pos_right _ (Nat.pow_pos (by decide))

/-- A numeral denotes a finite double exactly if it is less than the overflow. -/
theorem Numeral.isFinite_toFloat_iff (n : Numeral) :
    n.toFloat.isFinite = true ↔ n.value < overflow := by
  by_cases hsmall : n.digits < 2 ^ 53 ∧ n.exponent.natAbs ≤ 22
  · exact iff_of_true (isFinite_ofScientific_of_small _ hsmall.1 hsmall.2)
      (value_lt_overflow_of_small hsmall.1 hsmall.2)
  · have hexponent : (if decide (n.exponent < 0) = true then Int.negOfNat n.exponent.natAbs
        else Int.ofNat n.exponent.natAbs) = n.exponent := by
      by_cases hnegative : n.exponent < 0
      · rw [if_pos (decide_eq_true hnegative), Int.negOfNat_eq, Int.ofNat_eq_natCast]
        omega
      · rw [if_neg (by simpa using hnegative), Int.ofNat_eq_natCast]
        omega
    have hmodel : n.toFloat.toModel =
        Float.Model.pack (UnpackedFloat.ofScientific .binary64 n.digits n.exponent) := by
      unfold Numeral.toFloat Float.ofScientific
      rw [dif_neg hsmall]
      dsimp only
      rw [hexponent]
      rfl
    rw [← below_ofScientific_iff, ← isFinite_pack_iff, ← hmodel]
    rfl

example : (⟨17976931348623158, 292⟩ : Numeral).toFloat.isFinite = true ∧
    (⟨17976931348623159, 292⟩ : Numeral).toFloat.isFinite = false := by decide +kernel

/-! ## Literals -/

theorem isFinite_neg_iff {x : Float} : (-x).isFinite = true ↔ x.isFinite = true :=
  calc (-x).isFinite = true ↔ Below 971 x.toModel.unpack.neg := isFinite_pack_iff
    _ ↔ Below 971 x.toModel.unpack := below_neg_iff
    _ ↔ x.isFinite = true := below_unpack_iff

/-- The magnitude of the number that a literal stands for. -/
def Literal.value (l : Literal) : ℚ :=
  l.magnitude.numeral.value

theorem Literal.isFinite_toFloat_iff (l : Literal) :
    l.toFloat.isFinite = true ↔ l.value < overflow := by
  rw [Literal.value, ← Numeral.isFinite_toFloat_iff, Literal.toFloat]
  split
  · exact isFinite_neg_iff
  · exact Iff.rfl

end PlumeForm.Decimal
