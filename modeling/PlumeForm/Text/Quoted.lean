import PlumeForm.Text.Unprintable
import PlumeForm.Text.Combining

/-!
# Quoted texts

A text inside a message stands between double quotes. A double quote and a backslash get a backslash
before them, four controls have letters (tab `t`, carriage return `r`, line feed `n`, null `0`), and
a character that would be lost to the eye is written as its number in hexadecimal digits between
braces: one without a shape of its own, and one that would combine with what stands before it. The
single quote stands for itself.
-/

namespace PlumeForm.Text

/-- A code point by its number. -/
def escapeNumber (c : Char) : List Char :=
  ['\\', 'u', '\x7b'] ++ Nat.toDigits 16 c.toNat ++ ['\x7d']

/-- One character of a quoted text. -/
def quoteChar (c : Char) : List Char :=
  if c = '\x00' then ['\\', '0']
  else if c = '\t' then ['\\', 't']
  else if c = '\r' then ['\\', 'r']
  else if c = '\n' then ['\\', 'n']
  else if c = '"' then ['\\', '"']
  else if c = '\\' then ['\\', '\\']
  else if isCombining c || isUnprintable c then escapeNumber c
  else [c]

/-- The text between double quotes, with escapes. -/
def quote (s : String) : String :=
  String.ofList ('"' :: s.toList.flatMap quoteChar ++ ['"'])

end PlumeForm.Text
