import PlumeForm.Power

/-!
# Characters beyond ASCII, written in ASCII

A label of a domain name is written as its ASCII characters, a hyphen, and numbers that say which
other characters are put in between, and where. The characters are put in by ascending code point.
A number counts how many pairs of a code point and a position are passed over, in digits of base
36 whose weights depend on the numbers before. Numbers and weights have 32 bits.

Main statements: a digit reads back (`digitValue?_digitChar`), and a number at the front of a text
takes at least one character (`readNumber?_length`), which is why reading ends.
-/

namespace PlumeForm.Punycode

/-! ## Digits -/

/-- The digit of a value below 36: letters first. -/
def digitChar (d : Nat) : Char :=
  if d < 26 then Char.ofNat (d + 'a'.toNat) else Char.ofNat (d - 26 + '0'.toNat)

/-- The value of a digit. -/
def digitValue? (c : Char) : Option Nat :=
  if c.isLower then some (c.toNat - 'a'.toNat)
  else if c.isDigit then some (c.toNat - '0'.toNat + 26)
  else none

theorem digitValue?_digitChar {d : Nat} (h : d < 36) : digitValue? (digitChar d) = some d := by
  have all : ∀ e ∈ List.range 36, digitValue? (digitChar e) = some e := by decide
  exact all d (List.mem_range.2 h)

/-- The least value of a digit after which the number goes on. The places of a number are 36, 72
and so on. -/
def threshold (bias place : Nat) : Nat :=
  max 1 (min 26 (place - bias))

theorem threshold_pos (bias place : Nat) : 1 ≤ threshold bias place := by
  unfold threshold
  omega

/-- A difference brought down to at most 455, and the bias that it stands for. -/
def settle (difference place : Nat) : Nat :=
  if 455 < difference then settle (difference / 35) (place + 36)
  else place + 36 * difference / (difference + 38)
termination_by difference
decreasing_by exact Nat.div_lt_self (by omega) (by omega)

/-- The bias after a number, when the label has grown to so many characters. -/
def adapt (number size : Nat) (first : Bool) : Nat :=
  let difference := if first then number / 700 else number / 2
  settle (difference + difference / size) 0

/-- Where reading and writing stand: the last character that was put in, the position behind it,
how many characters there are, and the bias. -/
structure Progress where
  code : Nat := 0x80
  next : Nat := 0
  size : Nat
  bias : Nat := 72
  first : Bool := true
deriving DecidableEq, Repr

namespace Progress

/-- The number that puts in a character at a position. -/
def number (p : Progress) (code position : Nat) : Nat :=
  (code - p.code) * (p.size + 1) + position - p.next

/-- The character and the position that a number puts in. -/
def target (p : Progress) (number : Nat) : Nat × Nat :=
  (p.code + (p.next + number) / (p.size + 1), (p.next + number) % (p.size + 1))

/-- The progress after a character was put in. -/
def after (p : Progress) (code position number : Nat) : Progress :=
  ⟨code, position + 1, p.size + 1, adapt number (p.size + 1) p.first, false⟩

end Progress

/-! ## Writing -/

/-- The digits of a number, from a place on. -/
def writeNumber (bias place number : Nat) : List Char :=
  let t := threshold bias place
  if number < t then [digitChar number]
  else
    digitChar (t + (number - t) % (36 - t)) ::
      writeNumber bias (place + 36) ((number - t) / (36 - t))
termination_by number
decreasing_by
  have := threshold_pos bias place
  exact Nat.lt_of_le_of_lt (Nat.div_le_self _ _) (by omega)

/-- The digits that put in characters at positions, one after the other. -/
def writeAll (p : Progress) : List (Nat × Nat) → List Char
  | [] => []
  | (code, position) :: rest =>
    let number := p.number code position
    writeNumber p.bias 36 number ++ writeAll (p.after code position number) rest

/-- The character is ASCII. -/
def isBasic (c : Char) : Bool :=
  c.toNat < 0x80

/-- The characters beyond ASCII of a text, each with its position among the characters that stand
before it and do not come later in order; `before` holds them. -/
def insertions (before : List Char) : List Char → List (Nat × Nat)
  | [] => []
  | c :: rest =>
    let later := insertions (before ++ [c]) rest
    if isBasic c then later
    else (c.toNat, (before.filter fun d => d.toNat ≤ c.toNat).length) :: later

/-- The order in which characters are put in. -/
def comesBefore (a b : Nat × Nat) : Bool :=
  a.1 < b.1 || (a.1 == b.1 && a.2 ≤ b.2)

/-- A text in ASCII. -/
def encode (cs : List Char) : List Char :=
  let basic := cs.filter isBasic
  let digits := writeAll { size := basic.length } ((insertions [] cs).mergeSort comesBefore)
  if basic = [] then digits else basic ++ '-' :: digits

/-! ## Reading -/

/-- What numbers and weights stay below. -/
def limit : Nat := 2 ^ 32

/-- The number at the front of a text, from a place and its weight on, and what follows it. -/
def readNumber? (bias place weight : Nat) : List Char → Option (Nat × List Char)
  | [] => none
  | c :: rest =>
    match digitValue? c with
    | none => none
    | some d =>
      let t := threshold bias place
      if d < t then some (d * weight, rest)
      else if limit ≤ weight * (36 - t) then none
      else
        (readNumber? bias (place + 36) (weight * (36 - t)) rest).map fun r =>
          (d * weight + r.1, r.2)

theorem readNumber?_length {bias place weight n : Nat} {cs rest : List Char}
    (h : readNumber? bias place weight cs = some (n, rest)) : rest.length < cs.length := by
  induction cs generalizing place weight n rest with
  | nil => simp [readNumber?] at h
  | cons c r ih =>
    unfold readNumber? at h
    split at h
    · simp at h
    · simp only at h
      split at h
      · simp_all
      split at h
      · simp at h
      · obtain ⟨⟨m, s⟩, hm, he⟩ := Option.map_eq_some_iff.1 h
        have := ih hm
        simp only [Prod.mk.injEq] at he
        simp only [List.length_cons, ← he.2]
        omega

/-- The code point of a character. -/
def isCodePoint (n : Nat) : Bool :=
  n < 0xD800 || (0xDFFF < n && n < 0x110000)

/-- The text with the characters put in that digits say. -/
def readAll? (p : Progress) (shown cs : List Char) : Option (List Char) :=
  if cs = [] then some shown
  else
    match _h : readNumber? p.bias 36 1 cs with
    | none => none
    | some (number, rest) =>
      let (code, position) := p.target number
      if isCodePoint code ∧ p.next + number < limit then
        readAll? (p.after code position number) (shown.insertIdx position (Char.ofNat code)) rest
      else none
termination_by cs.length
decreasing_by exact readNumber?_length _h

/-- The ASCII characters of a written text, and its digits; a hyphen stands between them only when
there are such characters. -/
def split (cs : List Char) : List Char × List Char :=
  match cs.reverse.span (· ≠ '-') with
  | (digits, _ :: c :: basic) => ((c :: basic).reverse, digits.reverse)
  | _ => ([], cs)

/-- The text that a written text stands for. -/
def decode? (cs : List Char) : Option (List Char) :=
  let (basic, digits) := split cs
  if basic.all isBasic then readAll? { size := basic.length } basic digits else none

end PlumeForm.Punycode
