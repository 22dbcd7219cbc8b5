import Mathlib
import PlumeForm.Proofs.Decimal.Characters
import PlumeForm.Volcano

/-!
# Volcanoes by name

For the look-up of a volcano, two names are the same if their characters are the same one by one,
where a letter from A to Z and its small letter count as the same (`Text.SameButCase`). Found is the
first record with such a name (`position?_eq_some_iff`), so that it does not matter in which case
the letters of the name are given (`position?_congr`).
-/

namespace PlumeForm

/-! ## Texts but for the case of letters -/

namespace Text

/-- The two characters are the same, or one is a letter from A to Z and the other its small
letter. -/
inductive SameLetter : Char → Char → Prop
  | same (c : Char) : SameLetter c c
  | small {c d : Char} (hcapital : c.isUpper = true) (hsmall : d.toNat = c.toNat + 32) :
    SameLetter c d
  | capital {c d : Char} (hcapital : d.isUpper = true) (hsmall : c.toNat = d.toNat + 32) :
    SameLetter c d

/-- The texts differ at most in the case of ASCII letters. -/
def SameButCase (a b : String) : Prop :=
  List.Forall₂ SameLetter a.toList b.toList

variable {c d : Char}

theorem toNat_toLower_of_isUpper (h : c.isUpper = true) : c.toLower.toNat = c.toNat + 32 := by
  have hbounds := Decimal.toNat_of_isUpper h
  have hvalid : (c.toNat + 32).isValidChar := by
    left
    omega
  rw [Char.toLower_eq_of_isUpper h, Char.toNat_ofNat, if_pos hvalid]

theorem toLower_of_small (hcapital : c.isUpper = true) (hsmall : d.toNat = c.toNat + 32) :
    d.toLower = d := by
  refine Char.toLower_eq_of_not_isUpper fun hd => ?_
  have hc := Decimal.toNat_of_isUpper hcapital
  have hd := Decimal.toNat_of_isUpper hd
  omega

theorem toLower_eq_iff_small (hcapital : c.isUpper = true) (hd : ¬ d.isUpper) :
    c.toLower = d.toLower ↔ d.toNat = c.toNat + 32 := by
  rw [Char.toLower_eq_of_not_isUpper hd, ← Char.toNat_inj, toNat_toLower_of_isUpper hcapital]
  exact eq_comm

theorem toLower_eq_iff_sameLetter : c.toLower = d.toLower ↔ SameLetter c d := by
  constructor
  · intro h
    by_cases hc : c.isUpper
    · by_cases hd : d.isUpper
      · have hcode : c.toNat + 32 = d.toNat + 32 := by
          rw [← toNat_toLower_of_isUpper hc, h, toNat_toLower_of_isUpper hd]
        rw [Char.toNat_inj.1 (Nat.add_right_cancel hcode)]
        exact .same d
      · exact .small hc ((toLower_eq_iff_small hc hd).1 h)
    · by_cases hd : d.isUpper
      · exact .capital hd ((toLower_eq_iff_small hd hc).1 h.symm)
      · rw [Char.toLower_eq_of_not_isUpper hc, Char.toLower_eq_of_not_isUpper hd] at h
        rw [h]
        exact .same d
  · intro h
    cases h with
    | same => rfl
    | small hcapital hsmall =>
      rw [toLower_of_small hcapital hsmall, ← Char.toNat_inj, toNat_toLower_of_isUpper hcapital,
        hsmall]
    | capital hcapital hsmall =>
      rw [toLower_of_small hcapital hsmall, ← Char.toNat_inj, toNat_toLower_of_isUpper hcapital,
        hsmall]

theorem lowerAscii_eq_iff {a b : List Char} :
    lowerAscii a = lowerAscii b ↔ List.Forall₂ SameLetter a b := by
  induction a generalizing b with
  | nil => cases b <;> simp [lowerAscii]
  | cons c cs ih =>
    cases b with
    | nil => simp [lowerAscii]
    | cons d ds =>
      rw [List.forall₂_cons, ← ih, ← toLower_eq_iff_sameLetter]
      exact List.cons_eq_cons

end Text

/-! ## Looking up a name -/

namespace VolcanoTable

open Text

variable {table : VolcanoTable} {name name' : String} {i : Nat}

theorem sameName_iff {a b : String} : sameName a b = true ↔ SameButCase a b := by
  rw [sameName, equalCaseless, beq_iff_eq, lowerAscii_eq_iff]
  rfl

/-- The record at the index has the name, but for the case of letters. -/
def NamedAt (table : VolcanoTable) (name : String) (i : Nat) : Prop :=
  ∃ volcano, table.entries[i]? = some volcano ∧ SameButCase volcano.name name

theorem namedAt_iff (h : i < table.entries.length) :
    table.NamedAt name i ↔ sameName table.entries[i].name name = true := by
  rw [NamedAt, List.getElem?_eq_getElem h, sameName_iff]
  simp

theorem NamedAt.lt_length (h : table.NamedAt name i) : i < table.entries.length := by
  obtain ⟨volcano, hvolcano, -⟩ := h
  exact (List.getElem?_eq_some_iff.1 hvolcano).1

/-- The index of a name is the first one at which it stands. -/
theorem position?_eq_some_iff :
    table.position? name = some i ↔
      table.NamedAt name i ∧ ∀ j < i, ¬ table.NamedAt name j := by
  rw [position?, List.findIdx?_eq_some_iff_getElem]
  constructor
  · rintro ⟨hi, hnamed, hfirst⟩
    refine ⟨(namedAt_iff hi).2 hnamed, ?_⟩
    intro j hj hnamedj
    exact hfirst j hj ((namedAt_iff (Nat.lt_trans hj hi)).1 hnamedj)
  · rintro ⟨hnamed, hfirst⟩
    refine ⟨hnamed.lt_length, (namedAt_iff hnamed.lt_length).1 hnamed, ?_⟩
    intro j hj hnamedj
    exact hfirst j hj ((namedAt_iff (Nat.lt_trans hj hnamed.lt_length)).2 hnamedj)

/-- The case of the letters of a name does not matter. -/
theorem position?_congr (h : SameButCase name name') :
    table.position? name = table.position? name' := by
  have hsame : equalCaseless name.toList name'.toList = true := sameName_iff.2 h
  unfold position?
  congr 1
  funext volcano
  rw [sameName, sameName, equalCaseless_comm, equalCaseless_trans hsame, equalCaseless_comm]

end VolcanoTable

end PlumeForm
