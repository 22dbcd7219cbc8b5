import PlumeForm.Text.Blank
import PlumeForm.Text.Unsigned

/-!
# Runs of digits

A run of decimal digits denotes a number. Runs of one length denote different numbers
(`eq_of_value_eq`), so that a number and a length determine the run. Digits are not white space. An
unsigned number is read exactly from a run of digits, with or without a plus sign before it
(`readUnsigned?_eq_some_iff`).
-/

namespace PlumeForm.Text

/-- Every character is a decimal digit. -/
def AllDigits (cs : List Char) : Prop :=
  ∀ c ∈ cs, c.isDigit = true

/-- The number that a run of digits denotes. -/
abbrev value (cs : List Char) : Nat :=
  Nat.ofDigitChars 10 cs 0

theorem allDigits_nil : AllDigits [] := fun _ h => nomatch h

theorem allDigits_cons {c : Char} {cs : List Char} :
    AllDigits (c :: cs) ↔ c.isDigit = true ∧ AllDigits cs :=
  List.forall_mem_cons

theorem allDigits_append {cs ds : List Char} :
    AllDigits (cs ++ ds) ↔ AllDigits cs ∧ AllDigits ds :=
  List.forall_mem_append

/-- The text does not go on with a digit. -/
def NoLeadingDigit (cs : List Char) : Prop :=
  ∀ c r, cs = c :: r → c.isDigit = false

theorem noLeadingDigit_nil : NoLeadingDigit [] := fun _ _ h => nomatch h

theorem noLeadingDigit_cons {c : Char} {cs : List Char} :
    NoLeadingDigit (c :: cs) ↔ c.isDigit = false := by
  constructor
  · intro h
    exact h c cs rfl
  · rintro h _ _ ⟨⟩
    exact h

theorem toNat_of_isDigit {c : Char} (h : c.isDigit = true) : 48 ≤ c.toNat ∧ c.toNat ≤ 57 :=
  Char.isDigit_iff_toNat.1 h

/-- A digit is not white space. -/
theorem isBlank_of_isDigit {c : Char} (h : c.isDigit = true) : isBlank c = false := by
  obtain ⟨hlow, hhigh⟩ := toNat_of_isDigit h
  rw [← Bool.not_eq_true, isBlank, CodeRange.contains_iff]
  rintro ⟨r, hr, hfirst, hlast⟩
  -- No range of blanks meets the codes 48 to 57.
  have houtside : ∀ r ∈ blankRanges, r.last < 48 ∨ 57 < r.first := by decide
  have := houtside r hr
  omega

/-! ## Values -/

theorem value_cons (c : Char) (cs : List Char) :
    value (c :: cs) = 10 ^ cs.length * (c.toNat - 48) + value cs := by
  rw [value, Nat.ofDigitChars_cons, Nat.ofDigitChars_eq_ofDigitChars_zero, Nat.mul_zero,
    Nat.zero_add]
  rfl

theorem value_lt {cs : List Char} (h : AllDigits cs) : value cs < 10 ^ cs.length := by
  induction cs with
  | nil => exact Nat.one_pos
  | cons c cs ih =>
    obtain ⟨hc, hcs⟩ := allDigits_cons.1 h
    have hdigit : c.toNat - 48 ≤ 9 := by have := toNat_of_isDigit hc; omega
    have hrest := ih hcs
    have hfront : 10 ^ cs.length * (c.toNat - 48) ≤ 10 ^ cs.length * 9 :=
      Nat.mul_le_mul_left _ hdigit
    rw [value_cons, List.length_cons, Nat.pow_succ]
    omega

/-- Runs of one length that denote the same number are the same. -/
theorem eq_of_value_eq {cs ds : List Char} (hcs : AllDigits cs) (hds : AllDigits ds)
    (hlength : cs.length = ds.length) (hvalue : value cs = value ds) : cs = ds := by
  induction cs generalizing ds with
  | nil => exact (List.length_eq_zero_iff.1 hlength.symm).symm
  | cons c cs ih =>
    cases ds with
    | nil => cases hlength
    | cons d ds =>
      obtain ⟨hc, hcs⟩ := allDigits_cons.1 hcs
      obtain ⟨hd, hds⟩ := allDigits_cons.1 hds
      have hlength' : cs.length = ds.length := Nat.succ.inj hlength
      have hcbounds := toNat_of_isDigit hc
      have hdbounds := toNat_of_isDigit hd
      rw [value_cons, value_cons, ← hlength'] at hvalue
      have hcs_lt := value_lt hcs
      have hds_lt := value_lt hds
      rw [← hlength'] at hds_lt
      -- The rests are below the weight of the first digit, so they do not mix with it.
      have hfirst : c.toNat - 48 = d.toNat - 48 := by
        have hdiv : ∀ {x r : Nat}, r < 10 ^ cs.length →
            (10 ^ cs.length * x + r) / 10 ^ cs.length = x := by
          intro x r hr
          rw [Nat.mul_add_div (Nat.pow_pos (by decide)), Nat.div_eq_of_lt hr, Nat.add_zero]
        rw [← hdiv (x := c.toNat - 48) hcs_lt, hvalue, hdiv hds_lt]
      have hrest : value cs = value ds := by
        rw [hfirst] at hvalue
        exact Nat.add_left_cancel hvalue
      have hchar : c = d := Char.toNat_inj.1 (by omega)
      rw [hchar, ih hcs hds hlength' hrest]

/-! ## Unsigned numbers -/

theorem readDigits?_eq_some_iff {cs : List Char} {n : Nat} :
    readDigits? cs = some n ↔ cs ≠ [] ∧ AllDigits cs ∧ value cs = n := by
  unfold readDigits? AllDigits
  cases cs with
  | nil => simp
  | cons c cs => simp only [List.isEmpty_cons, Bool.false_eq_true, if_false, List.all_eq_true,
      Option.ite_none_right_eq_some, Option.some.injEq, ne_eq, List.cons_ne_nil, not_false_eq_true,
      true_and]

/-- The digits may follow a plus sign. -/
theorem readUnsigned?_eq_some_iff {cs : List Char} {n : Nat} :
    readUnsigned? cs = some n ↔
      ∃ digits, (cs = digits ∨ cs = '+' :: digits) ∧ digits ≠ [] ∧ AllDigits digits ∧
        value digits = n := by
  unfold readUnsigned?
  split
  · next rest =>
    rw [readDigits?_eq_some_iff]
    constructor
    · intro h
      exact ⟨rest, .inr rfl, h⟩
    · rintro ⟨digits, rfl | hdigits, h⟩
      · exact absurd ((allDigits_cons.1 h.2.1).1) (by decide)
      · cases hdigits
        exact h
  · next hplus =>
    rw [readDigits?_eq_some_iff]
    constructor
    · intro h
      exact ⟨cs, .inl rfl, h⟩
    · rintro ⟨digits, rfl | rfl, h⟩
      · exact h
      · exact absurd rfl (hplus digits)

end PlumeForm.Text
