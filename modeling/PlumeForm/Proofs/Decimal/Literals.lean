import PlumeForm.Decimal.Reader
import PlumeForm.Proofs.Text.Spans

/-!
# Decimal literals

A `Literal` is a decimal number as it may be written, taken apart: a sign or none, digits with a
point or without one, and a power of ten or none. The texts that are read as finite numbers are
those of the literals that denote a finite double (`readFinite?_eq_some_iff_literal`). The words for
infinity and for what is no number are read as well, but as nothing finite.
-/

namespace PlumeForm.Decimal

open Text

/-! ## Signs -/

/-- This may stand in the place of a sign. -/
def IsSign (sign : Option Char) : Prop :=
  ∀ c ∈ sign, c = '+' ∨ c = '-'

/-- The text does not begin with a sign. -/
def NoLeadingSign (cs : List Char) : Prop :=
  ∀ c r, cs = c :: r → c ≠ '+' ∧ c ≠ '-'

theorem splitSign_append {sign : Option Char} {cs : List Char} (hsign : IsSign sign)
    (hcs : NoLeadingSign cs) : splitSign (sign.toList ++ cs) = (decide (sign = some '-'), cs) := by
  cases sign with
  | none =>
    rw [Option.toList_none, List.nil_append, splitSign.eq_def]
    split
    · next r => exact absurd rfl (hcs '-' r rfl).2
    · next r => exact absurd rfl (hcs '+' r rfl).1
    · rfl
  | some c =>
    rcases hsign c rfl with rfl | rfl
    · rfl
    · rfl

theorem exists_sign (cs : List Char) :
    ∃ sign, IsSign sign ∧ cs = sign.toList ++ (splitSign cs).2 ∧
      (splitSign cs).1 = decide (sign = some '-') := by
  unfold splitSign
  split
  · exact ⟨some '-', by simp [IsSign], rfl, rfl⟩
  · exact ⟨some '+', by simp [IsSign], rfl, rfl⟩
  · exact ⟨none, by simp [IsSign], rfl, rfl⟩

theorem noLeadingSign_of_isDigit {c : Char} {cs : List Char} (h : c.isDigit = true) :
    NoLeadingSign (c :: cs) := by
  rintro _ _ ⟨⟩
  constructor
  · rintro rfl
    exact absurd h (by decide)
  · rintro rfl
    exact absurd h (by decide)

/-! ## Powers of ten -/

/-- The power of ten at the end of a literal. -/
structure Power where
  letter : Char
  sign : Option Char
  digits : List Char
  isLetter_letter : letter = 'e' ∨ letter = 'E'
  isSign_sign : IsSign sign
  allDigits_digits : AllDigits digits
  digits_ne_nil : digits ≠ []

namespace Power

/-- The characters of the power. -/
def text (p : Power) : List Char :=
  p.letter :: (p.sign.toList ++ p.digits)

/-- The exponent. -/
def exponent (p : Power) : Int :=
  if p.sign = some '-' then -(value p.digits : Int) else value p.digits

theorem noLeadingSign_digits (p : Power) : NoLeadingSign p.digits := by
  obtain ⟨d, ds, hds⟩ := List.exists_cons_of_ne_nil p.digits_ne_nil
  rw [hds]
  exact noLeadingSign_of_isDigit (p.allDigits_digits d (hds ▸ List.mem_cons_self))

theorem readExponent?_text (p : Power) : readExponent? p.text = some p.exponent := by
  have hdigits : p.digits ≠ [] ∧ p.digits.all Char.isDigit = true :=
    ⟨p.digits_ne_nil, List.all_eq_true.2 p.allDigits_digits⟩
  simp only [text, readExponent?, splitSign_append p.isSign_sign p.noLeadingSign_digits]
  rw [if_pos p.isLetter_letter, if_pos hdigits]
  simp only [decide_eq_true_eq, exponent]

end Power

/-- The characters of a power of ten that may be missing. -/
def powerText (power : Option Power) : List Char :=
  power.elim [] Power.text

/-- The exponent of a power of ten that may be missing. -/
def powerExponent (power : Option Power) : Int :=
  power.elim 0 Power.exponent

/-- Behind the digits of a numeral there is a power of ten or nothing. -/
theorem readExponent?_eq_some_iff {cs : List Char} {e : Int} :
    readExponent? cs = some e ↔
      ∃ power : Option Power, powerText power = cs ∧ powerExponent power = e := by
  constructor
  · intro h
    cases cs with
    | nil =>
      cases h
      exact ⟨none, rfl, rfl⟩
    | cons c rest =>
      simp only [readExponent?] at h
      split at h
      · next hletter =>
        split at h
        · next hdigits =>
          obtain ⟨sign, hsign, happend, hnegative⟩ := exists_sign rest
          refine ⟨some ⟨c, sign, (splitSign rest).2, hletter, hsign,
            List.all_eq_true.1 hdigits.2, hdigits.1⟩, congrArg (c :: ·) happend.symm, ?_⟩
          rw [hnegative] at h
          simpa [powerExponent, Power.exponent] using h
        · cases h
      · cases h
  · rintro ⟨power, rfl, rfl⟩
    cases power with
    | none => rfl
    | some p => exact p.readExponent?_text

/-- A power of ten begins with neither a digit nor a point. -/
theorem powerText_eq_cons {power : Option Power} {c : Char} {r : List Char}
    (h : powerText power = c :: r) : c = 'e' ∨ c = 'E' := by
  cases power with
  | none => cases h
  | some p =>
    cases h
    exact p.isLetter_letter

theorem noLeadingDigit_powerText (power : Option Power) : NoLeadingDigit (powerText power) := by
  intro c r h
  rcases powerText_eq_cons h with rfl | rfl <;> decide

/-! ## Digits with a point -/

/-- The characters of a point with digits that may be missing. -/
def fractionText (fraction : Option (List Char)) : List Char :=
  fraction.elim [] ('.' :: ·)

theorem span_spec (cs : List Char) :
    AllDigits (cs.span Char.isDigit).1 ∧
      cs = (cs.span Char.isDigit).1 ++ (cs.span Char.isDigit).2 := by
  rw [List.span_eq_takeWhile_dropWhile]
  exact ⟨List.all_eq_true.1 List.all_takeWhile, List.takeWhile_append_dropWhile.symm⟩

theorem splitFraction_append {fraction : Option (List Char)} (power : Option Power)
    (h : ∀ ds ∈ fraction, AllDigits ds) :
    splitFraction (fractionText fraction ++ powerText power) =
      (fraction.getD [], powerText power) := by
  cases fraction with
  | none =>
    rw [fractionText, Option.elim_none, List.nil_append, splitFraction.eq_def]
    split
    · next r hpoint =>
      exact absurd (powerText_eq_cons hpoint) (by decide)
    · rfl
  | some ds => exact span_of_allDigits (h ds rfl) (noLeadingDigit_powerText power)

theorem exists_fraction (cs : List Char) :
    ∃ fraction : Option (List Char), (∀ ds ∈ fraction, AllDigits ds) ∧
      cs = fractionText fraction ++ (splitFraction cs).2 ∧
        (splitFraction cs).1 = fraction.getD [] := by
  unfold splitFraction
  split
  · next rest =>
    obtain ⟨hdigits, happend⟩ := span_spec rest
    refine ⟨some (rest.span Char.isDigit).1, ?_, congrArg ('.' :: ·) happend, rfl⟩
    rintro _ ⟨⟩
    exact hdigits
  · exact ⟨none, by simp, rfl, rfl⟩

/-- A literal without its sign. -/
structure Magnitude where
  whole : List Char
  fraction : Option (List Char)
  power : Option Power
  allDigits_whole : AllDigits whole
  allDigits_fraction : ∀ ds ∈ fraction, AllDigits ds
  digits_ne_nil : whole ++ fraction.getD [] ≠ []

namespace Magnitude

/-- The characters of the magnitude. -/
def text (m : Magnitude) : List Char :=
  m.whole ++ (fractionText m.fraction ++ powerText m.power)

/-- The digits, on both sides of the point. -/
def digits (m : Magnitude) : List Char :=
  m.whole ++ m.fraction.getD []

/-- The number that the magnitude denotes: the digits, and a power of ten that is lower by one for
every digit behind the point. -/
def numeral (m : Magnitude) : Numeral :=
  ⟨value m.digits, powerExponent m.power - (m.fraction.getD []).length⟩

theorem noLeadingDigit_behind (m : Magnitude) :
    NoLeadingDigit (fractionText m.fraction ++ powerText m.power) := by
  cases m.fraction with
  | none => exact noLeadingDigit_powerText m.power
  | some ds => exact noLeadingDigit_cons.2 (by decide)

theorem readNumeral?_text (m : Magnitude) : readNumeral? m.text = some m.numeral := by
  simp only [readNumeral?, text, span_of_allDigits m.allDigits_whole m.noLeadingDigit_behind,
    splitFraction_append m.power m.allDigits_fraction, m.digits_ne_nil, if_false,
    readExponent?_eq_some_iff.2 ⟨m.power, rfl, rfl⟩, Option.map_some]
  rfl

/-- A magnitude begins with a digit or a point. -/
theorem noLeadingSign_text (m : Magnitude) : NoLeadingSign m.text := by
  unfold text
  cases hwhole : m.whole with
  | cons d ds => exact noLeadingSign_of_isDigit (m.allDigits_whole d (hwhole ▸ List.mem_cons_self))
  | nil =>
    cases hfraction : m.fraction with
    | some ds =>
      rintro _ _ ⟨⟩
      decide
    | none =>
      have hne := m.digits_ne_nil
      rw [hwhole, hfraction] at hne
      exact absurd rfl hne

end Magnitude

theorem readNumeral?_eq_some_iff {cs : List Char} {n : Numeral} :
    readNumeral? cs = some n ↔ ∃ m : Magnitude, m.text = cs ∧ m.numeral = n := by
  constructor
  · intro h
    obtain ⟨hwhole, happend⟩ := span_spec cs
    obtain ⟨fraction, hfraction, hbehind, hdigits⟩ := exists_fraction (cs.span Char.isDigit).2
    simp only [readNumeral?, hdigits] at h
    split at h
    · cases h
    · next hne =>
      obtain ⟨e, he, hn⟩ := Option.map_eq_some_iff.1 h
      obtain ⟨power, hpower, rfl⟩ := readExponent?_eq_some_iff.1 he
      refine ⟨⟨_, fraction, power, hwhole, hfraction, hne⟩, ?_, hn⟩
      rw [Magnitude.text, hpower, ← hbehind, ← happend]
  · rintro ⟨m, rfl, rfl⟩
    exact m.readNumeral?_text

/-! ## Literals -/

/-- A decimal number as it may be written. -/
structure Literal where
  sign : Option Char
  magnitude : Magnitude
  isSign_sign : IsSign sign

namespace Literal

/-- The characters of the literal. -/
def text (l : Literal) : List Char :=
  l.sign.toList ++ l.magnitude.text

/-- The double that the literal denotes. -/
def toFloat (l : Literal) : Float :=
  if l.sign = some '-' then -l.magnitude.numeral.toFloat else l.magnitude.numeral.toFloat

theorem read?_text (l : Literal) : read? l.text = some l.toFloat := by
  simp only [read?, text, splitSign_append l.isSign_sign l.magnitude.noLeadingSign_text,
    readMagnitude?, l.magnitude.readNumeral?_text, Option.map_some, decide_eq_true_eq, toFloat]

end Literal

/-- The words stand for nothing finite. -/
theorem not_isFinite_of_readWord? {cs : List Char} {x : Float} (h : readWord? cs = some x) :
    x.isFinite = false ∧ (-x).isFinite = false := by
  simp only [readWord?] at h
  split at h
  · cases h
    decide +kernel
  · split at h
    · cases h
      decide +kernel
    · cases h

theorem exists_magnitude_of_isFinite {cs : List Char} {x : Float}
    (h : readMagnitude? cs = some x) (hfinite : x.isFinite = true ∨ (-x).isFinite = true) :
    ∃ m : Magnitude, m.text = cs ∧ m.numeral.toFloat = x := by
  unfold readMagnitude? at h
  split at h
  · next n hn =>
    obtain ⟨m, hm, rfl⟩ := readNumeral?_eq_some_iff.1 hn
    exact ⟨m, hm, Option.some.inj h⟩
  · obtain ⟨hpositive, hnegated⟩ := not_isFinite_of_readWord? h
    rw [hpositive, hnegated] at hfinite
    simp at hfinite

/-- The finite numbers are read exactly from the literals that denote them. -/
theorem readFinite?_eq_some_iff_literal {cs : List Char} {x : Float} :
    readFinite? cs = some x ↔
      ∃ l : Literal, l.text = cs ∧ l.toFloat = x ∧ x.isFinite = true := by
  rw [readFinite?_eq_some_iff]
  constructor
  · rintro ⟨h, hfinite⟩
    obtain ⟨sign, hsign, happend, hnegative⟩ := exists_sign cs
    have hread : (readMagnitude? (splitSign cs).2).map
        (fun y => if (splitSign cs).1 then -y else y) = some x := h
    obtain ⟨y, hy, hx⟩ := Option.map_eq_some_iff.1 hread
    simp only [hnegative, decide_eq_true_eq] at hx
    have hy_finite : y.isFinite = true ∨ (-y).isFinite = true := by
      rw [← hx] at hfinite
      split at hfinite
      · exact .inr hfinite
      · exact .inl hfinite
    obtain ⟨m, hm, rfl⟩ := exists_magnitude_of_isFinite hy hy_finite
    refine ⟨⟨sign, m, hsign⟩, ?_, hx, hfinite⟩
    rw [Literal.text, hm, ← happend]
  · rintro ⟨l, rfl, rfl, hfinite⟩
    exact ⟨l.read?_text, hfinite⟩

end PlumeForm.Decimal
