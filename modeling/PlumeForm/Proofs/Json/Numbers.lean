import PlumeForm.Json.Number
import PlumeForm.Json.Writer
import PlumeForm.Proofs.Text.Spans

/-!
# Numbers in JSON text

A number is read up to its end: what follows it does not matter, unless it could go on with the
number (`readNumber?_append`). So a number that reads back when it stands alone does so inside of a
text. Whole numbers of 64 bits read back (`readsBack_natCast`). Whether a double does depends on
how often reading rounds, and is left open here.
-/

namespace PlumeForm.Json

open Text

/-- A number ends before this text. -/
def EndsNumber (rest : List Char) : Prop :=
  ∀ c r, rest = c :: r → c.isDigit = false ∧ c ≠ '.' ∧ c ≠ 'e' ∧ c ≠ 'E'

theorem endsNumber_nil : EndsNumber [] := fun _ _ h => nomatch h

theorem endsNumber_cons {c : Char} {cs : List Char}
    (h : c.isDigit = false ∧ c ≠ '.' ∧ c ≠ 'e' ∧ c ≠ 'E') : EndsNumber (c :: cs) := by
  rintro _ _ ⟨⟩
  exact h

/-! ## Reading on -/

section Append

variable {rest : List Char}

theorem span_append (cs : List Char) (hrest : EndsNumber rest) :
    (cs ++ rest).span Char.isDigit =
      ((cs.span Char.isDigit).1, (cs.span Char.isDigit).2 ++ rest) := by
  have hfront : rest.takeWhile Char.isDigit = [] ∧ rest.dropWhile Char.isDigit = rest := by
    cases rest with
    | nil => exact ⟨rfl, rfl⟩
    | cons c r => simp [(hrest c r rfl).1]
  simp only [List.span_eq_takeWhile_dropWhile]
  induction cs with
  | nil => simp [hfront]
  | cons c cs ih =>
    simp only [Prod.mk.injEq] at ih
    by_cases hc : c.isDigit = true
    · simp [hc, ih]
    · simp [hc]

theorem readFraction?_eq_self {cs : List Char} (h : ∀ r, cs ≠ '.' :: r) :
    readFraction? cs = some ([], cs) := by
  unfold readFraction?
  split
  · next r => exact absurd rfl (h r)
  · rfl

theorem readFraction?_append {cs fraction after : List Char} (hrest : EndsNumber rest)
    (h : readFraction? cs = some (fraction, after)) :
    readFraction? (cs ++ rest) = some (fraction, after ++ rest) := by
  by_cases hpoint : ∃ r, cs = '.' :: r
  · obtain ⟨r, rfl⟩ := hpoint
    simp only [readFraction?, List.cons_append, span_append r hrest] at h ⊢
    split at h
    · cases h
    · next hne =>
      cases h
      rw [if_neg hne]
  · have hcs : ∀ r, cs ≠ '.' :: r := fun r hr => hpoint ⟨r, hr⟩
    rw [readFraction?_eq_self hcs] at h
    cases h
    apply readFraction?_eq_self
    intro r hr
    cases cs with
    | nil => exact (hrest _ _ hr).2.1 rfl
    | cons c cs =>
      cases hr
      exact hcs _ rfl

/-- The power of ten of an exponent, and what follows it. -/
theorem readPower?_append {negative : Bool} {cs after : List Char} {exponent : Option Int}
    (hrest : EndsNumber rest)
    (h : (readPower? negative cs).map (fun p => (some p.1, p.2)) = some (exponent, after)) :
    (readPower? negative (cs ++ rest)).map (fun p => (some p.1, p.2)) =
      some (exponent, after ++ rest) := by
  simp only [readPower?, span_append cs hrest] at h ⊢
  split at h
  · cases h
  · next hne =>
    cases h
    rw [if_neg hne]
    rfl

theorem readExponent?_append {cs after : List Char} {exponent : Option Int}
    (hrest : EndsNumber rest) (h : readExponent? cs = some (exponent, after)) :
    readExponent? (cs ++ rest) = some (exponent, after ++ rest) := by
  cases cs with
  | nil =>
    cases h
    cases rest with
    | nil => rfl
    | cons c r =>
      obtain ⟨-, -, hsmall, hlarge⟩ := hrest c r rfl
      simp [readExponent?, hsmall, hlarge]
  | cons c cs =>
    simp only [readExponent?, List.cons_append] at h ⊢
    by_cases hletter : c = 'e' ∨ c = 'E'
    · rw [if_pos hletter] at h ⊢
      -- A power needs digits, so neither they nor the sign before them are in what follows.
      cases cs with
      | nil => simp [readPower?] at h
      | cons d ds =>
        split at h
        · next heq =>
          cases heq
          exact readPower?_append hrest h
        · next heq =>
          cases heq
          exact readPower?_append hrest h
        · next hplus hminus =>
          split
          · next heq =>
            cases heq
            exact absurd rfl (hplus _)
          · next heq =>
            cases heq
            exact absurd rfl (hminus _)
          · exact readPower?_append hrest h
    · rw [if_neg hletter] at h ⊢
      cases h
      rfl

theorem readNumberText?_append {negative : Bool} {cs after : List Char} {t : NumberText}
    (hrest : EndsNumber rest) (h : readNumberText? negative cs = some (t, after)) :
    readNumberText? negative (cs ++ rest) = some (t, after ++ rest) := by
  simp only [readNumberText?, span_append cs hrest] at h ⊢
  split at h
  · cases h
  next hwhole =>
  rw [if_neg hwhole]
  split at h
  · cases h
  next fraction behind hfraction =>
  simp only [readFraction?_append hrest hfraction]
  obtain ⟨⟨exponent, last⟩, hexponent, hpair⟩ := Option.map_eq_some_iff.1 h
  rw [readExponent?_append hrest hexponent]
  cases hpair
  rfl

end Append

theorem readNumber?_cons (c : Char) (cs : List Char) :
    readNumber? (c :: cs) =
      (if c = '-' then readNumberText? true cs else readNumberText? false (c :: cs)).bind
        fun p => p.1.value?.map fun n => (n, p.2) := by
  by_cases hminus : c = '-'
  · subst hminus
    rw [if_pos rfl]
    simp only [readNumber?]
    cases readNumberText? true cs <;> rfl
  · rw [if_neg hminus]
    unfold readNumber?
    split
    · next heq => exact absurd (List.cons.inj heq).1 hminus
    · cases readNumberText? false (c :: cs) <;> rfl

/-- A number begins with a minus sign or a digit. -/
theorem head_of_readNumber? {c : Char} {cs after : List Char} {n : JsonNumber}
    (h : readNumber? (c :: cs) = some (n, after)) : c = '-' ∨ c.isDigit = true := by
  rw [readNumber?_cons] at h
  by_cases hminus : c = '-'
  · exact .inl hminus
  · apply Or.inr
    rw [← Bool.not_eq_false]
    intro hdigit
    simp [hminus, readNumberText?, List.span_eq_takeWhile_dropWhile, hdigit] at h

/-- What follows a number does not change how it is read. -/
theorem readNumber?_append {cs rest after : List Char} {n : JsonNumber} (hrest : EndsNumber rest)
    (h : readNumber? cs = some (n, after)) :
    readNumber? (cs ++ rest) = some (n, after ++ rest) := by
  cases cs with
  | nil => cases h
  | cons c cs =>
    rw [List.cons_append, readNumber?_cons]
    rw [readNumber?_cons] at h
    obtain ⟨⟨t, last⟩, htext, hvalue⟩ := Option.bind_eq_some_iff.1 h
    obtain ⟨m, hm, hpair⟩ := Option.map_eq_some_iff.1 hvalue
    cases hpair
    have hmore : (if c = '-' then readNumberText? true (cs ++ rest)
        else readNumberText? false (c :: (cs ++ rest))) = some (t, last ++ rest) := by
      split at htext
      · next hminus =>
        rw [if_pos hminus]
        exact readNumberText?_append hrest htext
      · next hminus =>
        rw [if_neg hminus]
        exact readNumberText?_append hrest htext
    rw [hmore]
    simp only [Option.bind_some, hm, Option.map_some]

/-! ## Numbers that read back -/

/-- The text of the number is read as the number. -/
def ReadsBack (n : JsonNumber) : Prop :=
  readNumber? (writeNumber n) = some (n, [])

theorem ReadsBack.readNumber?_append {n : JsonNumber} (h : ReadsBack n) {rest : List Char}
    (hrest : EndsNumber rest) : readNumber? (writeNumber n ++ rest) = some (n, rest) := by
  have hmore := Json.readNumber?_append hrest h
  rwa [List.nil_append] at hmore

theorem writeNumber_natCast (n : Nat) : writeNumber (.integer n) = Nat.toDigits 10 n := by
  change (Nat.repr n).toList = _
  rw [Nat.repr, String.toList_ofList]

/-- The digits of a number have no needless zero before them. -/
theorem length_toDigits_of_zero {n : Nat} (h : (Nat.toDigits 10 n).head? = some '0') :
    (Nat.toDigits 10 n).length = 1 := by
  obtain ⟨ds, hds⟩ := List.head?_eq_some_iff.1 h
  have hdigits : AllDigits ds := fun d hd =>
    Nat.isDigit_of_mem_toDigits (b := 10) (n := n) (by decide) (by decide)
      (by rw [hds]; exact List.mem_cons_of_mem _ hd)
  have hvalue : value ds = n := by
    have hcons := value_cons '0' ds
    have hzero : '0'.toNat - 48 = 0 := rfl
    rw [hzero, Nat.mul_zero, Nat.zero_add, ← hds, value, Nat.ofDigitChars_ten_toDigits] at hcons
    exact hcons.symm
  cases ds with
  | nil => rw [hds]; rfl
  | cons d ds =>
    have hlt := value_lt hdigits
    rw [hvalue] at hlt
    have hshort := (Nat.length_toDigits_le_iff (b := 10) (by decide) (Nat.succ_pos _)).2 hlt
    rw [hds] at hshort
    exact absurd hshort (by simp)

/-- A whole number of 64 bits reads back. -/
theorem readsBack_natCast {n : Nat} (h : n ≤ wordMax) : ReadsBack (.integer n) := by
  have hall : AllDigits (Nat.toDigits 10 n) := fun c hc =>
    Nat.isDigit_of_mem_toDigits (by decide) (by decide) hc
  have hvalue : value (Nat.toDigits 10 n) = n := Nat.ofDigitChars_ten_toDigits
  have hwhole : ¬ (Nat.toDigits 10 n = [] ∨
      ((Nat.toDigits 10 n).head? = some '0' ∧ 1 < (Nat.toDigits 10 n).length)) := by
    rintro (hnil | ⟨hzero, hlength⟩)
    · exact Nat.toDigits_ne_nil hnil
    · rw [length_toDigits_of_zero hzero] at hlength
      exact absurd hlength (by decide)
  have htext : readNumberText? false (Nat.toDigits 10 n) =
      some (⟨false, Nat.toDigits 10 n, [], 0, true⟩, []) := by
    simp only [readNumberText?, span_of_digits hall, if_neg hwhole]
    rfl
  have hnumber : NumberText.value? ⟨false, Nat.toDigits 10 n, [], 0, true⟩ =
      some (.integer n) := by
    simp [NumberText.value?, hvalue, h]
  rw [ReadsBack, writeNumber_natCast]
  cases hds : Nat.toDigits 10 n with
  | nil => exact absurd hds Nat.toDigits_ne_nil
  | cons c cs =>
    have hminus : c ≠ '-' := by
      rintro rfl
      exact absurd (hall '-' (hds ▸ List.mem_cons_self)) (by decide)
    rw [readNumber?_cons, if_neg hminus, ← hds, htext, Option.bind_some, hnumber, Option.map_some]

end PlumeForm.Json
