import PlumeForm.Power

/-!
# Unsigned whole numbers in text

A whole number is read from an optional plus sign and at least one ASCII digit. Leading zeros are
allowed. Main statement: reading gives back the number whose digits were written
(`readUnsigned?_toDigits`).
-/

namespace PlumeForm.Text

/-- The number that a run of digits denotes, when there is at least one and all are digits. -/
def readDigits? (cs : List Char) : Option Nat :=
  if cs.isEmpty then none
  else if cs.all Char.isDigit then some (Nat.ofDigitChars 10 cs 0)
  else none

/-- The number that a text denotes: digits, with or without a plus sign before them. -/
def readUnsigned? : List Char → Option Nat
  | '+' :: rest => readDigits? rest
  | cs => readDigits? cs

theorem readDigits?_toDigits (n : Nat) : readDigits? (Nat.toDigits 10 n) = some n := by
  have hne : (Nat.toDigits 10 n).isEmpty = false := by
    simp
  have hall : (Nat.toDigits 10 n).all Char.isDigit = true :=
    List.all_eq_true.2 fun c hc => Nat.isDigit_of_mem_toDigits (by decide) (by decide) hc
  simp [readDigits?, hne, hall, Nat.ofDigitChars_ten_toDigits]

theorem readUnsigned?_of_digit {c : Char} {r : List Char} (h : c.isDigit = true) :
    readUnsigned? (c :: r) = readDigits? (c :: r) := by
  unfold readUnsigned?
  split
  · next rest heq =>
    obtain ⟨rfl, -⟩ := List.cons.inj heq
    exact absurd h (by decide)
  · rfl

/-- Reading gives back the number whose digits were written. -/
theorem readUnsigned?_toDigits (n : Nat) : readUnsigned? (Nat.toDigits 10 n) = some n := by
  cases hd : Nat.toDigits 10 n with
  | nil => exact absurd hd Nat.toDigits_ne_nil
  | cons c r =>
    have hc : c.isDigit = true :=
      Nat.isDigit_of_mem_toDigits (b := 10) (n := n) (by decide) (by decide) (by simp [hd])
    rw [readUnsigned?_of_digit hc, ← hd, readDigits?_toDigits]

end PlumeForm.Text
