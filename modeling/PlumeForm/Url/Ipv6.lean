import PlumeForm.Text.Hex

/-!
# Addresses of eight pieces

An address of 128 bits is written as eight hexadecimal pieces of 16 bits with colons between them.
A double colon stands for one or more pieces that are 0, and the last two pieces may be written as
four decimal bytes with points. In writing, the longest run of at least two zero pieces becomes a
double colon, the first of several.
-/

namespace PlumeForm

/-- An address of eight pieces. -/
structure Ipv6 where
  pieces : List Nat
deriving DecidableEq, Repr

namespace Ipv6

/-! ## Reading -/

/-- What stands before and after the first double colon. -/
def splitDouble : List Char → Option (List Char × List Char)
  | [] => none
  | ':' :: ':' :: rest => some ([], rest)
  | c :: rest => (splitDouble rest).map fun p => (c :: p.1, p.2)

/-- A piece of one to four hexadecimal digits. -/
def readPiece? (cs : List Char) : Option Nat :=
  if cs = [] ∨ 4 < cs.length then none
  else
    (cs.mapM Text.hexValue?).map fun digits => digits.foldl (fun n d => n * 16 + d) 0

/-- A decimal byte without a needless zero. -/
def readByte? (cs : List Char) : Option Nat :=
  if cs = [] ∨ (cs.head? = some '0' ∧ 1 < cs.length) ∨ cs.all Char.isDigit = false then none
  else
    let n := Nat.ofDigitChars 10 cs 0
    if n < 256 then some n else none

/-- The two pieces of four decimal bytes. -/
def readBytes? (cs : List Char) : Option (List Nat) :=
  match (cs.splitOn '.').mapM readByte? with
  | some [a, b, c, d] => some [a * 256 + b, c * 256 + d]
  | _ => none

/-- The pieces between colons; the last one may hold decimal bytes. -/
def readPieces? : List (List Char) → Option (List Nat)
  | [] => some []
  | [last] => if last.contains '.' then readBytes? last else (readPiece? last).map fun n => [n]
  | piece :: rest =>
    match readPiece? piece, readPieces? rest with
    | some n, some ns => some (n :: ns)
    | _, _ => none

/-- The pieces of a text; an empty text has none. -/
def readRun? (cs : List Char) : Option (List Nat) :=
  if cs = [] then some [] else readPieces? (cs.splitOn ':')

/-- The pieces before a double colon, none of which holds decimal bytes. -/
def readFront? (cs : List Char) : Option (List Nat) :=
  if cs.contains '.' then none else readRun? cs

/-- The address of a text. -/
def read? (cs : List Char) : Option Ipv6 :=
  match splitDouble cs with
  | none =>
    match readRun? cs with
    | some pieces => if pieces.length = 8 then some ⟨pieces⟩ else none
    | none => none
  | some (front, back) =>
    match readFront? front, readRun? back with
    | some a, some b =>
      if a.length + b.length ≤ 7 then
        some ⟨a ++ List.replicate (8 - a.length - b.length) 0 ++ b⟩
      else none
    | _, _ => none

/-! ## Writing -/

/-- How many pieces at the front are 0. -/
def zeros (pieces : List Nat) : Nat :=
  (pieces.takeWhile (· == 0)).length

/-- The place and the length of the longest run of zero pieces, the first of several; `place` is the
place of the first of the given pieces. -/
def longestRun (place : Nat) : List Nat → Nat × Nat
  | [] => (0, 0)
  | n :: ns =>
    let here := zeros (n :: ns)
    let later := longestRun (place + 1) ns
    if here = 0 ∨ here < later.2 then later else (place, here)

/-- Pieces with colons between them. -/
def renderPieces (pieces : List Nat) : List Char :=
  [':'].intercalate (pieces.map (Nat.toDigits 16))

/-- The text of an address. -/
def render (a : Ipv6) : List Char :=
  let (place, length) := longestRun 0 a.pieces
  if length < 2 then renderPieces a.pieces
  else
    renderPieces (a.pieces.take place) ++ [':', ':'] ++
      renderPieces (a.pieces.drop (place + length))

end Ipv6

end PlumeForm
