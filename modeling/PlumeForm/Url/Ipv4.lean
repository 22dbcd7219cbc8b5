import PlumeForm.Text.Hex

/-!
# Numeric host names

A host name whose last part is a number is an address of 32 bits. Its parts may be octal (`0…`) or
hexadecimal (`0x…`), and there may be fewer than four of them: the last part then fills the bytes
that are left.
-/

namespace PlumeForm

/-- An address of 32 bits. -/
structure Ipv4 where
  value : UInt32
deriving DecidableEq, Repr

namespace Ipv4

/-- The number that digits of a base denote; no digits denote 0. -/
def readDigits? (base : Nat) (cs : List Char) : Option Nat :=
  if cs.all (Text.isDigitOf base) then some (Text.valueIn base cs) else none

/-- The number that a part denotes. -/
def readPart? : List Char → Option Nat
  | [] => none
  | '0' :: 'x' :: rest => readDigits? 16 rest
  | '0' :: 'X' :: rest => readDigits? 16 rest
  | '0' :: c :: rest => readDigits? 8 (c :: rest)
  | cs => readDigits? 10 cs

/-- The parts of a host name; an empty last one does not count. -/
def parts (cs : List Char) : List (List Char) :=
  let parts := cs.splitOn '.'
  if parts.getLast? = some [] ∧ 1 < parts.length then parts.dropLast else parts

/-- The last part is a number, or at least digits. -/
def endsInNumber (cs : List Char) : Bool :=
  match (parts cs).getLast? with
  | some part => part ≠ [] && (part.all Char.isDigit || (readPart? part).isSome)
  | none => false

/-- The value of the numbers before the last one, and of the last one. -/
def combine? : Nat → List Nat → Option Nat
  | _, [] => none
  | room, [last] => if last < 256 ^ room then some last else none
  | room, n :: ns =>
    if n < 256 then (combine? (room - 1) ns).map fun rest => n * 256 ^ (room - 1) + rest else none

/-- The address of a host name. -/
def read? (cs : List Char) : Option Ipv4 :=
  let parts := parts cs
  if 4 < parts.length then none
  else
    match parts.mapM readPart? with
    | some numbers => (combine? 4 numbers).map fun n => ⟨UInt32.ofNat n⟩
    | none => none

/-- The four bytes of the address. -/
def bytes (a : Ipv4) : List Nat :=
  let n := a.value.toNat
  [n / 256 ^ 3, n / 256 ^ 2 % 256, n / 256 % 256, n % 256]

/-- The address as four numbers with points between them. -/
def render (a : Ipv4) : List Char :=
  ['.'].intercalate (a.bytes.map (Nat.toDigits 10))

end Ipv4

end PlumeForm
