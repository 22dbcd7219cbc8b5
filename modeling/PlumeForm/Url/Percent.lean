import PlumeForm.Text.Hex

/-!
# Percent form

Inside an address some characters are written by the bytes of their UTF-8 form, each as a percent
sign and two hexadecimal digits. Controls and everything beyond ASCII are always written so; which
other characters are depends on the part of the address. Main statement: a byte in percent form
reads back (`decodeBytes_encodeByte`).
-/

namespace PlumeForm.Percent

/-- Characters that a fragment does not show. -/
def fragmentSet : List Char := [' ', '"', '<', '>', '\x60']

/-- Characters that a path does not show. -/
def pathSet : List Char := fragmentSet ++ ['#', '?', '\x7b', '\x7d']

/-- Characters that a user name or a password does not show. -/
def userSet : List Char := pathSet ++ ['/', ':', ';', '=', '@', '[', '\\', ']', '^', '|']

/-- Characters that a query does not show. -/
def querySet : List Char := [' ', '"', '#', '<', '>']

/-- Characters that the query of a web address does not show. -/
def webQuerySet : List Char := querySet ++ ['\'']

/-- A byte below 16 as a hexadecimal digit. -/
def hexDigit (n : Nat) : Char :=
  (Nat.digitChar n).toUpper

/-- A byte in percent form. -/
def encodeByte (b : UInt8) : List Char :=
  ['%', hexDigit (b.toNat / 16), hexDigit (b.toNat % 16)]

/-- The character is written in percent form where the set is in force. -/
def isHidden (set : List Char) (c : Char) : Bool :=
  c.toNat < 0x20 || 0x7E < c.toNat || set.contains c

/-- A character as a part of an address shows it. -/
def encodeChar (set : List Char) (c : Char) : List Char :=
  if isHidden set c then (String.utf8EncodeChar c).flatMap encodeByte else [c]

/-- A text as a part of an address shows it. -/
def encode (set : List Char) (cs : List Char) : List Char :=
  cs.flatMap (encodeChar set)

/-! ## Reading -/

/-- The bytes that a text stands for; a percent sign without two digits behind it is itself. -/
def decodeBytes : List Char → List UInt8
  | [] => []
  | '%' :: a :: b :: rest =>
    match Text.hexValue? a, Text.hexValue? b with
    | some x, some y => UInt8.ofNat (x * 16 + y) :: decodeBytes rest
    | _, _ => String.utf8EncodeChar '%' ++ decodeBytes (a :: b :: rest)
  | c :: rest => String.utf8EncodeChar c ++ decodeBytes rest
termination_by cs => cs.length

/-- The text that a text in percent form stands for, when its bytes are UTF-8. -/
def decode? (cs : List Char) : Option (List Char) :=
  (String.fromUTF8? (ByteArray.mk (decodeBytes cs).toArray)).map String.toList

theorem hexValue?_hexDigit {n : Nat} (h : n < 16) : Text.hexValue? (hexDigit n) = some n := by
  have all : ∀ m ∈ List.range 16, Text.hexValue? (hexDigit m) = some m := by decide
  exact all n (List.mem_range.2 h)

theorem decodeBytes_encodeByte (b : UInt8) (rest : List Char) :
    decodeBytes (encodeByte b ++ rest) = b :: decodeBytes rest := by
  have hb : b.toNat < 256 := b.toNat_lt
  rw [encodeByte, List.cons_append, List.cons_append, List.cons_append, List.nil_append,
    decodeBytes, hexValue?_hexDigit (by omega), hexValue?_hexDigit (by omega)]
  simp only [List.cons.injEq, and_true]
  rw [show b.toNat / 16 * 16 + b.toNat % 16 = b.toNat by omega, UInt8.ofNat_toNat]

end PlumeForm.Percent
