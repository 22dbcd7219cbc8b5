/-!
# Letters of ASCII without their case

Names of volcanoes, keys of window features and file extensions are compared by folding the
letters A to Z only; every other character stands for itself.
-/

namespace PlumeForm.Text

/-- The text with the capital letters of ASCII made small. -/
def lowerAscii (cs : List Char) : List Char :=
  cs.map Char.toLower

/-- The two texts differ at most in the case of ASCII letters. -/
def equalCaseless (a b : List Char) : Bool :=
  lowerAscii a == lowerAscii b

theorem equalCaseless_comm (a b : List Char) : equalCaseless a b = equalCaseless b a := by
  unfold equalCaseless
  exact BEq.comm

theorem equalCaseless_trans {a b c : List Char} (h : equalCaseless a b = true) :
    equalCaseless a c = equalCaseless b c := by
  simp only [equalCaseless, beq_iff_eq] at h ⊢
  rw [h]

end PlumeForm.Text
