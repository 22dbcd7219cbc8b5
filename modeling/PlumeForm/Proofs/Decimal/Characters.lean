import PlumeForm.Decimal.Reader
import PlumeForm.Text.Blank
import Mathlib.Data.List.TakeDrop

/-!
# The characters of numbers

A text that is read as a number consists of ASCII letters, digits, signs and points
(`isNumberChar_of_read?`). It has no white space, no line feed and no colon, and can stand as a
field of a line between colons.
-/

namespace PlumeForm.Decimal

open Text

/-- The character can stand in a number. -/
def IsNumberChar (c : Char) : Prop :=
  c.isAlphanum = true ∨ c = '+' ∨ c = '-' ∨ c = '.'

theorem isNumberChar_of_isDigit {c : Char} (h : c.isDigit = true) : IsNumberChar c :=
  .inl (Bool.or_eq_true_iff.2 (.inr h))

theorem isNumberChar_of_isAlpha {c : Char} (h : c.isAlpha = true) : IsNumberChar c :=
  .inl (Bool.or_eq_true_iff.2 (.inl h))

theorem toNat_of_isUpper {c : Char} (h : c.isUpper = true) : 65 ≤ c.toNat ∧ c.toNat ≤ 90 :=
  of_decide_eq_true h

theorem toNat_of_isLower {c : Char} (h : c.isLower = true) : 97 ≤ c.toNat ∧ c.toNat ≤ 122 := by
  obtain ⟨hlow, hhigh⟩ := Bool.and_eq_true_iff.1 h
  exact ⟨of_decide_eq_true hlow, of_decide_eq_true hhigh⟩

/-- The codes of these characters lie between those of `+` and `z`, and a colon's is not one. -/
theorem IsNumberChar.toNat_bounds {c : Char} (h : IsNumberChar c) :
    43 ≤ c.toNat ∧ c.toNat ≤ 122 ∧ c.toNat ≠ 58 := by
  rcases h with h | rfl | rfl | rfl
  · rcases Bool.or_eq_true_iff.1 h with halpha | hdigit
    · rcases Bool.or_eq_true_iff.1 halpha with hupper | hlower
      · have := toNat_of_isUpper hupper
        omega
      · have := toNat_of_isLower hlower
        omega
    · have := Char.isDigit_iff_toNat.1 hdigit
      simp only [Char.reduceToNat] at this
      omega
  all_goals decide

theorem IsNumberChar.isBlank_eq_false {c : Char} (h : IsNumberChar c) : isBlank c = false := by
  obtain ⟨hlow, hhigh, -⟩ := h.toNat_bounds
  rw [← Bool.not_eq_true, isBlank, CodeRange.contains_iff]
  rintro ⟨r, hr, hfirst, hlast⟩
  have houtside : ∀ r ∈ blankRanges, r.last < 43 ∨ 122 < r.first := by decide
  have := houtside r hr
  omega

theorem IsNumberChar.ne_colon {c : Char} (h : IsNumberChar c) : c ≠ ':' := by
  rintro rfl
  exact h.toNat_bounds.2.2 rfl

theorem IsNumberChar.ne_lineFeed {c : Char} (h : IsNumberChar c) : c ≠ '\n' := by
  rintro rfl
  exact absurd h.toNat_bounds.1 (by decide)

/-! ## Numerals -/

theorem isNumberChar_of_splitSign {cs : List Char}
    (h : ∀ c ∈ (splitSign cs).2, IsNumberChar c) : ∀ c ∈ cs, IsNumberChar c := by
  unfold splitSign at h
  split at h
  · exact List.forall_mem_cons.2 ⟨.inr (.inr (.inl rfl)), h⟩
  · exact List.forall_mem_cons.2 ⟨.inr (.inl rfl), h⟩
  · exact h

theorem isNumberChar_of_readExponent? {cs : List Char} {e : Int} (h : readExponent? cs = some e) :
    ∀ c ∈ cs, IsNumberChar c := by
  cases cs with
  | nil => exact fun _ hc => nomatch hc
  | cons c rest =>
    simp only [readExponent?] at h
    split at h
    · next hletter =>
      split at h
      · next hdigits =>
        have hrest : ∀ c ∈ rest, IsNumberChar c := isNumberChar_of_splitSign fun d hd =>
          isNumberChar_of_isDigit (List.all_eq_true.1 hdigits.2 d hd)
        refine List.forall_mem_cons.2 ⟨isNumberChar_of_isAlpha ?_, hrest⟩
        rcases hletter with rfl | rfl <;> decide
      · cases h
    · cases h

theorem isNumberChar_of_span {cs : List Char}
    (h : ∀ c ∈ (cs.span Char.isDigit).2, IsNumberChar c) : ∀ c ∈ cs, IsNumberChar c := by
  intro c hc
  rw [List.span_eq_takeWhile_dropWhile] at h
  rw [← List.takeWhile_append_dropWhile (p := Char.isDigit) (l := cs), List.mem_append] at hc
  rcases hc with hc | hc
  · exact isNumberChar_of_isDigit (List.all_eq_true.1 List.all_takeWhile c hc)
  · exact h c hc

theorem isNumberChar_of_splitFraction {cs : List Char}
    (h : ∀ c ∈ (splitFraction cs).2, IsNumberChar c) : ∀ c ∈ cs, IsNumberChar c := by
  unfold splitFraction at h
  split at h
  · exact List.forall_mem_cons.2 ⟨.inr (.inr (.inr rfl)), isNumberChar_of_span h⟩
  · exact h

theorem isNumberChar_of_readNumeral? {cs : List Char} {n : Numeral} (h : readNumeral? cs = some n) :
    ∀ c ∈ cs, IsNumberChar c := by
  simp only [readNumeral?] at h
  split at h
  · cases h
  · obtain ⟨e, he, -⟩ := Option.map_eq_some_iff.1 h
    exact isNumberChar_of_span (isNumberChar_of_splitFraction (isNumberChar_of_readExponent? he))

/-! ## Words -/

theorem isAlpha_of_toLower {c : Char} (h : c.toLower.isAlpha = true) : c.isAlpha = true := by
  unfold Char.toLower at h
  split at h
  · next hupper => exact Bool.or_eq_true_iff.2 (.inl (decide_eq_true hupper))
  · exact h

theorem isNumberChar_of_readWord? {cs : List Char} {x : Float} (h : readWord? cs = some x) :
    ∀ c ∈ cs, IsNumberChar c := by
  have hletters : (lowerAscii cs).all Char.isAlpha = true := by
    have hword : ∀ {word : String}, String.ofList (lowerAscii cs) = word →
        lowerAscii cs = word.toList := by
      rintro _ rfl
      exact String.toList_ofList.symm
    simp only [readWord?] at h
    split at h
    · next hinf =>
      rcases hinf with hinf | hinf <;> rw [hword hinf] <;> decide
    · split at h
      · next hnan =>
        rw [hword hnan]
        decide
      · cases h
  intro c hc
  have hlower : c.toLower.isAlpha = true := List.all_eq_true.1 hletters _ (List.mem_map_of_mem hc)
  exact isNumberChar_of_isAlpha (isAlpha_of_toLower hlower)

/-! ## Numbers -/

theorem isNumberChar_of_read? {cs : List Char} {x : Float} (h : read? cs = some x) :
    ∀ c ∈ cs, IsNumberChar c := by
  refine isNumberChar_of_splitSign ?_
  simp only [read?] at h
  obtain ⟨y, hy, -⟩ := Option.map_eq_some_iff.1 h
  unfold readMagnitude? at hy
  split at hy
  · next n hn => exact isNumberChar_of_readNumeral? hn
  · exact isNumberChar_of_readWord? hy

end PlumeForm.Decimal
