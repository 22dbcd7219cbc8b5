import PlumeForm.Json.Reader
import PlumeForm.Json.Writer

/-!
# Texts in JSON

Every character of a text is written so that it is read back: as itself, behind a backslash, or by
its number (`readText?_escapeChar`). So a text between its quotes is read back, whatever follows it
(`readText?_flatMap_escapeChar`).
-/

namespace PlumeForm.Json

/-- A control of the first thirty-two is written with two hexadecimal digits. -/
theorem toDigits_of_control {n : Nat} (h : n < 32) :
    (if n < 16 then ['0'] else []) ++ Nat.toDigits 16 n =
        [Nat.digitChar (n / 16), Nat.digitChar (n % 16)] ∧
      hexFour? '0' '0' (Nat.digitChar (n / 16)) (Nat.digitChar (n % 16)) = some n := by
  revert n
  decide

theorem readText?_numbered {c : Char} (hcontrol : c.toNat < 32) (done rest : List Char) :
    readText? done none
        ('\\' :: 'u' :: '0' :: '0' :: Nat.digitChar (c.toNat / 16) ::
          Nat.digitChar (c.toNat % 16) :: rest) = readText? (c :: done) none rest := by
  have hnumber : numbered? none c.toNat = some (some c, none) := by
    have hlow : ¬ (0xD800 ≤ c.toNat ∧ c.toNat < 0xDC00) := by omega
    have hhigh : ¬ (0xDC00 ≤ c.toNat ∧ c.toNat < 0xE000) := by omega
    simp only [numbered?, hlow, hhigh, if_false, Char.ofNat_toNat]
  rw [readText?, (toDigits_of_control hcontrol).2]
  simp only [hnumber]
  rfl

theorem readText?_plain {c : Char} (hquote : c ≠ '"') (hslash : c ≠ '\\')
    (hshown : ¬ c.toNat < 0x20) (done rest : List Char) :
    readText? done none (c :: rest) = readText? (c :: done) none rest := by
  simp [readText?, hslash, hshown]

/-- A character is read back from what is written for it. -/
theorem readText?_escapeChar (c : Char) (done rest : List Char) :
    readText? done none (escapeChar c ++ rest) = readText? (c :: done) none rest := by
  unfold escapeChar
  split
  · next h => subst h; rfl
  split
  · next h => subst h; rfl
  split
  · next h => subst h; rfl
  split
  · next h => subst h; rfl
  split
  · next h => subst h; rfl
  split
  · next h => subst h; rfl
  split
  · next h => subst h; rfl
  next hquote hslash _ _ _ _ _ =>
  split
  · next hcontrol =>
    have hdigits : ['\\', 'u', '0', '0'] ++ (if c.toNat < 16 then ['0'] else []) ++
        Nat.toDigits 16 c.toNat =
          ['\\', 'u', '0', '0', Nat.digitChar (c.toNat / 16), Nat.digitChar (c.toNat % 16)] := by
      rw [List.append_assoc, (toDigits_of_control hcontrol).1]
      rfl
    rw [hdigits]
    exact readText?_numbered hcontrol done rest
  · next hshown => exact readText?_plain hquote hslash hshown done rest

theorem readText?_flatMap_escapeChar (cs done rest : List Char) :
    readText? done none (cs.flatMap escapeChar ++ '"' :: rest) =
      some (done.reverse ++ cs, rest) := by
  induction cs generalizing done with
  | nil => simp [readText?]
  | cons c cs ih =>
    rw [List.flatMap_cons, List.append_assoc, readText?_escapeChar, ih]
    simp

end PlumeForm.Json
