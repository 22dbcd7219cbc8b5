import PlumeForm.Calendar
import PlumeForm.Decimal.Reader
import PlumeForm.Decimal.Whole
import PlumeForm.Text.Blank

/-!
# Eruption dates

The canonical text of a time is `YYYY MM DD HH:MM`, sixteen characters in universal time
(`render`). Reading it back (`parse?`) demands sixteen characters and an existing time, but lets
white space stand before every number and numbers be shorter.

Two other spellings are brought into the canonical one (`normalize`): twelve digits in a row, and an
hour count with a sign, which is taken from now. Whatever is neither stays as it is.
-/

namespace PlumeForm.EruptionDate

/-- How many characters a canonical text has. -/
def canonicalLength : Nat := 16

/-- The text has as many characters as a canonical one. -/
def hasCanonicalLength (value : String) : Bool :=
  value.toList.length == canonicalLength

/-! ## Writing -/

/-- A number with zeros before it, up to a width. -/
def padded (width n : Nat) : List Char :=
  let digits := Nat.toDigits 10 n
  List.replicate (width - digits.length) '0' ++ digits

/-- A year: four digits, and beyond 0 to 9999 a sign before at least four. -/
def renderYear (year : Int) : List Char :=
  if year < 0 then '-' :: padded 4 year.natAbs
  else if 9999 < year then '+' :: padded 4 year.natAbs
  else padded 4 year.natAbs

/-- The canonical text of a time. -/
def render (t : CalendarTime) : String :=
  String.ofList
    (renderYear t.year ++ ' ' :: padded 2 t.month ++ ' ' :: padded 2 t.day ++ ' ' ::
      padded 2 t.hour ++ ':' :: padded 2 t.minute)

/-! ## Reading -/

/-- Up to so many digits at the front of a text, and what follows them. -/
def takeDigits : Nat → List Char → List Char × List Char
  | 0, cs => ([], cs)
  | _, [] => ([], [])
  | width + 1, c :: cs =>
    if c.isDigit then
      let (digits, rest) := takeDigits width cs
      (c :: digits, rest)
    else ([], c :: cs)

/-- A number of at most so many digits, and what follows it. -/
def readDigits? (width : Nat) (cs : List Char) : Option (Nat × List Char) :=
  let (digits, rest) := takeDigits width cs
  if digits = [] then none else some (Nat.ofDigitChars 10 digits 0, rest)

/-- A number behind white space, and what follows it. -/
def readNumber? (width : Nat) (cs : List Char) : Option (Nat × List Char) :=
  readDigits? width (Text.trimStart cs)

/-- A year behind white space, and what follows it: four digits at most, or any number of digits
behind a sign. -/
def readYear? (cs : List Char) : Option (Int × List Char) :=
  match Text.trimStart cs with
  | '-' :: rest => (readDigits? rest.length rest).map fun p => (-(p.1 : Int), p.2)
  | '+' :: rest => (readDigits? rest.length rest).map fun p => ((p.1 : Int), p.2)
  | rest => (readDigits? 4 rest).map fun p => ((p.1 : Int), p.2)

/-- The five numbers of a date text that has nothing else in it. -/
def readParts? (cs : List Char) : Option (Int × Nat × Nat × Nat × Nat) :=
  match readYear? cs with
  | none => none
  | some (year, cs) =>
    match readNumber? 2 cs with
    | none => none
    | some (month, cs) =>
      match readNumber? 2 cs with
      | none => none
      | some (day, cs) =>
        match readNumber? 2 cs with
        | some (hour, ':' :: cs) =>
          match readNumber? 2 cs with
          | some (minute, []) => some (year, month, day, hour, minute)
          | _ => none
        | _ => none

/-- The time that a text of canonical length denotes. -/
def parse? (value : String) : Option CalendarTime :=
  if hasCanonicalLength value then
    match readParts? value.toList with
    | some (year, month, day, hour, minute) => CalendarTime.ofParts? year month day hour minute
    | none => none
  else none

/-! ## Other spellings -/

/-- The longest offset, in seconds: 2^63 - 1 milliseconds. -/
def longestOffset : Nat := (2 ^ 63 - 1) / 1000

/-- The seconds in a number of hours: the product of doubles, rounded with a half away from zero. -/
def hoursToSeconds (hours : Float) : Int :=
  Decimal.roundHalfAway (hours * 3600.0)

/-- The seconds of an hour count, when the text is a finite number and the offset not too long. -/
def offset? (cs : List Char) : Option Int :=
  match Decimal.readFinite? cs with
  | none => none
  | some hours =>
    if (hours * 3600.0).isFinite && (hoursToSeconds hours).natAbs ≤ longestOffset then
      some (hoursToSeconds hours)
    else none

/-- The text starts with a sign. -/
def isSigned : List Char → Bool
  | '+' :: _ => true
  | '-' :: _ => true
  | _ => false

/-- Twelve digits. -/
def isCompact (cs : List Char) : Bool :=
  cs.length == 12 && cs.all Char.isDigit

/-- Twelve digits with the separators of the canonical text. -/
def spaced (cs : List Char) : String :=
  String.ofList
    (cs.take 4 ++ ' ' :: (cs.drop 4).take 2 ++ ' ' :: (cs.drop 6).take 2 ++ ' ' ::
      (cs.drop 8).take 2 ++ ':' :: (cs.drop 10).take 2)

/-- The time at an offset from now, when its year is supported. -/
def relative? (cs : List Char) (now : Int) : Option CalendarTime :=
  match offset? cs with
  | some seconds => CalendarTime.ofUnix? (now + seconds)
  | none => none

/-- The canonical text of a compact date or of an offset from now; any other text is left alone. -/
def normalize (input : String) (now : Int) : String :=
  let cs := Text.trim input.toList
  if isSigned cs then
    match relative? cs now with
    | some t => render t
    | none => input
  else if isCompact cs then spaced cs
  else input

end PlumeForm.EruptionDate
