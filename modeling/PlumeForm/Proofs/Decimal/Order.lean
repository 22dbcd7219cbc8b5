import PlumeForm.Decimal.Reader

/-!
# The order of finite doubles

Doubles are compared by what their bits stand for. Two finite doubles can always be compared, and
comparing them the other way round gives the opposite answer, so that on finite doubles "not less"
is "at least" (`le_of_not_lt`). Neither holds once one of the two is no number.
-/

namespace PlumeForm.Decimal

open Float.Model (UnpackedFloat)

theorem le_iff_compare {x y : Float} :
    x ≤ y ↔ (x.toModel.unpack.compare y.toModel.unpack).any (·.isLE) = true := by
  change decide (x.toModel ≤ y.toModel) = true ↔ _
  exact decide_eq_true_iff

theorem lt_iff_compare {x y : Float} :
    x < y ↔ x.toModel.unpack.compare y.toModel.unpack = some .lt := by
  change decide (x.toModel < y.toModel) = true ↔ _
  rw [decide_eq_true_iff]
  change (x.toModel.unpack.compare y.toModel.unpack == some .lt) = true ↔ _
  exact beq_iff_eq

/-- The magnitudes of two doubles of one sign, compared by exponent and then by significand. -/
theorem compare_then_swap (e f : Int) (m n : Nat) :
    (compare f e).then (compare n m) = ((compare e f).then (compare m n)).swap := by
  have hexponent : compare f e = (compare e f).swap := Std.OrientedCmp.eq_swap
  have hsignificand : compare n m = (compare m n).swap := Std.OrientedCmp.eq_swap
  rw [hexponent, hsignificand, Ordering.swap_then]

/-- Finite doubles can be compared, and the other way round the answer is the opposite. -/
theorem compare_of_isFinite {a b : UnpackedFloat} (ha : a.isFinite = true)
    (hb : b.isFinite = true) :
    ∃ o, a.compare b = some o ∧ b.compare a = some o.swap := by
  cases a with
  | notANumber => cases ha
  | infinity s => cases ha
  | zero s =>
    cases b with
    | notANumber => cases hb
    | infinity t => cases hb
    | zero t => exact ⟨.eq, rfl, rfl⟩
    | finite t n f hn =>
      cases t with
      | negative => exact ⟨.gt, rfl, rfl⟩
      | positive => exact ⟨.lt, rfl, rfl⟩
  | finite s m e hm =>
    cases b with
    | notANumber => cases hb
    | infinity t => cases hb
    | zero t =>
      cases s with
      | negative => exact ⟨.lt, rfl, rfl⟩
      | positive => exact ⟨.gt, rfl, rfl⟩
    | finite t n f hn =>
      cases s with
      | negative =>
        cases t with
        | negative =>
          have hswap := compare_then_swap e f m n
          exact ⟨_, rfl, congrArg (fun o : Ordering => some o.swap) hswap⟩
        | positive => exact ⟨.lt, rfl, rfl⟩
      | positive =>
        cases t with
        | negative => exact ⟨.gt, rfl, rfl⟩
        | positive =>
          have hswap := compare_then_swap e f m n
          exact ⟨_, rfl, congrArg some hswap⟩

/-- Of two finite doubles, the one that is not less is at least as large. -/
theorem le_of_not_lt {x y : Float} (hx : x.isFinite = true) (hy : y.isFinite = true)
    (h : ¬ x < y) : y ≤ x := by
  obtain ⟨o, hxy, hyx⟩ :=
    compare_of_isFinite (a := x.toModel.unpack) (b := y.toModel.unpack) hx hy
  rw [lt_iff_compare, hxy] at h
  rw [le_iff_compare, hyx]
  cases o with
  | lt => exact absurd rfl h
  | eq => rfl
  | gt => rfl

/-- A finite double is at least as large as itself. -/
theorem le_self {x : Float} (hx : x.isFinite = true) : x ≤ x := by
  obtain ⟨o, hxx, hswap⟩ :=
    compare_of_isFinite (a := x.toModel.unpack) (b := x.toModel.unpack) hx hx
  rw [hxx, Option.some.injEq] at hswap
  rw [le_iff_compare, hxx]
  cases o with
  | lt => cases hswap
  | eq => rfl
  | gt => cases hswap

/-- A finite double is not less than itself. -/
theorem lt_irrefl {x : Float} (hx : x.isFinite = true) : ¬ x < x := by
  obtain ⟨o, hxx, hswap⟩ :=
    compare_of_isFinite (a := x.toModel.unpack) (b := x.toModel.unpack) hx hx
  rw [hxx, Option.some.injEq] at hswap
  rw [lt_iff_compare, hxx]
  rintro ⟨⟩
  cases hswap

end PlumeForm.Decimal
