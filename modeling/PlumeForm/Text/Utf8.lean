/-!
# UTF-8 with errors

Bytes are decoded one after another. Where a byte cannot go on with the character that has begun,
or can begin none, a replacement character stands for what has been passed over, and the byte is
tried again as a first one. Main statement: bytes of ASCII decode as themselves (`decode_ascii`).
-/

namespace PlumeForm.Text

/-- A character of which bytes are missing. -/
structure Unfinished where
  /-- The number of the character so far. -/
  value : Nat
  /-- How many bytes are missing, less one. -/
  further : Nat
  /-- The least next byte. -/
  least : Nat := 0x80
  /-- The greatest next byte. -/
  greatest : Nat := 0xBF

namespace Utf8

/-- The character that stands for what is no UTF-8. -/
def replacement : Char := '\uFFFD'

/-- What a first byte gives: a character, or one that is not yet finished. -/
def begin (b : Nat) : List Char × Option Unfinished :=
  if b < 0x80 then ([Char.ofNat b], none)
  else if b < 0xC2 then ([replacement], none)
  else if b < 0xE0 then ([], some { value := b - 0xC0, further := 0 })
  else if b = 0xE0 then ([], some { value := 0, further := 1, least := 0xA0 })
  else if b = 0xED then ([], some { value := 0xD, further := 1, greatest := 0x9F })
  else if b < 0xF0 then ([], some { value := b - 0xE0, further := 1 })
  else if b = 0xF0 then ([], some { value := 0, further := 2, least := 0x90 })
  else if b < 0xF4 then ([], some { value := b - 0xF0, further := 2 })
  else if b = 0xF4 then ([], some { value := 4, further := 2, greatest := 0x8F })
  else ([replacement], none)

/-- What one more byte gives. -/
def step : Option Unfinished → Nat → List Char × Option Unfinished
  | none, b => begin b
  | some u, b =>
    if u.least ≤ b ∧ b ≤ u.greatest then
      let value := u.value * 0x40 + (b - 0x80)
      match u.further with
      | 0 => ([Char.ofNat value], none)
      | n + 1 => ([], some { value := value, further := n })
    else (replacement :: (begin b).1, (begin b).2)

/-- The characters of bytes behind a character that may be unfinished. -/
def decodeFrom : Option Unfinished → List Nat → List Char
  | none, [] => []
  | some _, [] => [replacement]
  | u, b :: bs => (step u b).1 ++ decodeFrom (step u b).2 bs

/-- The characters of bytes. -/
def decode (bytes : List Nat) : List Char :=
  decodeFrom none bytes

/-- Bytes without a byte order mark at their front. -/
def dropMark : List Nat → List Nat
  | 0xEF :: 0xBB :: 0xBF :: rest => rest
  | bytes => bytes

/-- The text of a file, without a byte order mark at its front. -/
def textOf (bytes : ByteArray) : String :=
  String.ofList (decode (dropMark (bytes.toList.map UInt8.toNat)))

theorem decode_ascii {bytes : List Nat} (h : ∀ b ∈ bytes, b < 0x80) :
    decode bytes = bytes.map Char.ofNat := by
  induction bytes with
  | nil => rfl
  | cons b bs ih =>
    have hb : b < 0x80 := h b (by simp)
    have hs : ∀ c ∈ bs, c < 0x80 := fun c hc => h c (by simp [hc])
    have ih := ih hs
    unfold decode at ih ⊢
    simp only [decodeFrom, step, begin, hb, if_true, ih, List.map_cons, List.singleton_append]

end Utf8

end PlumeForm.Text
