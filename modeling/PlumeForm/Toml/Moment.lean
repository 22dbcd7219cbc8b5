import PlumeForm.Calendar
import PlumeForm.EruptionDate

/-!
# Dates and times in TOML

A date `1979-05-27`, a time `07:32:00.5`, or both with a `T` or a space between them and then
perhaps an offset, `Z` or `+01:00`. The written form that is kept has a capital `T` and `Z`, and a
fraction of at most nine digits without zeros at its end.
-/

namespace PlumeForm.Toml.Moment

open EruptionDate (padded)

/-- A number of exactly so many digits, and what follows it. -/
def readFixed? (width : Nat) (cs : List Char) : Option (Nat × List Char) :=
  let digits := cs.take width
  if digits.length = width ∧ digits.all Char.isDigit then
    some (Nat.ofDigitChars 10 digits 0, cs.drop width)
  else none

/-- The written form of a date. -/
def readDate? (cs : List Char) : Option (List Char × List Char) :=
  match readFixed? 4 cs with
  | some (year, '-' :: cs) =>
    match readFixed? 2 cs with
    | some (month, '-' :: cs) =>
      match readFixed? 2 cs with
      | some (day, cs) =>
        if 1 ≤ day ∧ day ≤ Calendar.daysInMonth year month then
          some (padded 4 year ++ '-' :: padded 2 month ++ '-' :: padded 2 day, cs)
        else none
      | none => none
    | _ => none
  | _ => none

/-- The written form of a fraction of a second: nine digits at most, without zeros at the end. -/
def showFraction (digits : List Char) : List Char :=
  match ((digits.take 9).reverse.dropWhile (· == '0')).reverse with
  | [] => []
  | digits => '.' :: digits

/-- The written form of a fraction of a second, which may be missing, and what follows it. -/
def readFraction? : List Char → Option (List Char × List Char)
  | '.' :: cs =>
    let (digits, rest) := cs.span Char.isDigit
    if digits = [] then none else some (showFraction digits, rest)
  | cs => some ([], cs)

/-- The written form of a time of day. -/
def readTime? (cs : List Char) : Option (List Char × List Char) :=
  match readFixed? 2 cs with
  | some (hour, ':' :: cs) =>
    match readFixed? 2 cs with
    | some (minute, ':' :: cs) =>
      match readFixed? 2 cs with
      | some (second, cs) =>
        if hour < 24 ∧ minute < 60 ∧ second ≤ 60 then
          (readFraction? cs).map fun (fraction, rest) =>
            (padded 2 hour ++ ':' :: padded 2 minute ++ ':' :: padded 2 second ++ fraction, rest)
        else none
      | none => none
    | _ => none
  | _ => none

/-- The written form of an offset that ends the text; it may be missing. -/
def readOffset? : List Char → Option (List Char)
  | [] => some []
  | ['Z'] => some ['Z']
  | ['z'] => some ['Z']
  | sign :: cs =>
    if sign = '+' ∨ sign = '-' then
      match readFixed? 2 cs with
      | some (hour, ':' :: cs) =>
        match readFixed? 2 cs with
        | some (minute, []) =>
          if hour < 24 ∧ minute < 60 then
            let sign := if hour = 0 ∧ minute = 0 then '+' else sign
            some (sign :: padded 2 hour ++ ':' :: padded 2 minute)
          else none
        | _ => none
      | _ => none
    else none

/-- The mark between a date and a time. -/
def isSeparator (c : Char) : Bool :=
  c == 'T' || c == 't' || c == ' '

/-- The written form of a date, a time or both. -/
def read? (cs : List Char) : Option String :=
  match readDate? cs with
  | some (date, []) => some (String.ofList date)
  | some (date, c :: cs) =>
    if isSeparator c then
      match readTime? cs with
      | some (time, cs) =>
        (readOffset? cs).map fun offset => String.ofList (date ++ 'T' :: time ++ offset)
      | none => none
    else none
  | none =>
    match readTime? cs with
    | some (time, []) => some (String.ofList time)
    | _ => none

end PlumeForm.Toml.Moment
