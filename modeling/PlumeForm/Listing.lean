import PlumeForm.Volcano
import PlumeForm.Decimal.Reader
import PlumeForm.Text.Blank
import PlumeForm.Text.Lines
import PlumeForm.Text.Quoted

/-!
# Volcano listings

A listing is a header line and one line per volcano, with fields between colons: name, location,
latitude, N or S, longitude, E or W, and elevation; further fields are ignored. Lines of white
space do not count, and neither does white space around a field. South and west make a number
negative. The elevation is the plume's lowest height, and the source area comes from the settings.
-/

namespace PlumeForm.Listing

/-- How the first line must begin. -/
def header : String := "Puff Volcano Listing File"

/-- The most volcanoes that a listing may have. -/
def maxRecords : Nat := 2000

/-- The most characters of a name or a location. -/
def maxText : Nat := 100

/-- What is wrong with a line. -/
inductive Fault where
  | missingHeader
  | tooManyRecords
  | tooFewFields (found : Nat)
  | nameTooLong
  | locationTooLong
  | nameEmpty
  /-- No finite number: what it should be, and its text. -/
  | badNumber (what text : String)
  /-- No direction: what it should be, its two letters, and its text. -/
  | badDirection (what letters text : String)
deriving DecidableEq, Repr

/-- The wording of the fault. -/
def Fault.reason : Fault → String
  | missingHeader => "missing \"" ++ header ++ "\" header"
  | tooManyRecords => "more than " ++ toString maxRecords ++ " volcano records"
  | tooFewFields found => "expected 7 colon-separated fields, found " ++ toString found
  | nameTooLong => "volcano name exceeds " ++ toString maxText ++ " characters"
  | locationTooLong => "volcano location exceeds " ++ toString maxText ++ " characters"
  | nameEmpty => "volcano name is empty"
  | badNumber what text => "invalid " ++ what ++ " " ++ Text.quote text
  | badDirection what letters text =>
    what ++ " direction must be " ++ letters ++ ", got " ++ Text.quote text

/-- A finite number in a field. -/
def readNumber (what : String) (text : List Char) : Except Fault Float :=
  match Decimal.readFinite? text with
  | some x => .ok x
  | none => .error (.badNumber what (String.ofList text))

/-- The sign of a direction: the first character, in either case, is the letter for positive or the
letter for negative. -/
def readDirection? (positive negative : Char) (text : List Char) : Option Bool :=
  match text with
  | [] => none
  | c :: _ =>
    if c.toUpper = positive then some false else if c.toUpper = negative then some true else none

/-- A number with the sign of its direction. -/
def directed (what letters : String) (positive negative : Char) (text : List Char) (x : Float) :
    Except Fault Float :=
  match readDirection? positive negative text with
  | some false => .ok x
  | some true => .ok (-x)
  | none => .error (.badDirection what letters (String.ofList text))

/-- The location of a volcano; an empty one is none. -/
def readLocation (text : List Char) : Option String :=
  if text = [] then none else some (String.ofList text)

/-- The volcano of the seven fields of a line. -/
def readFields (area : Float) (name location lat latDir lon lonDir elevation : List Char) :
    Except Fault Volcano := do
  if maxText < name.length then throw .nameTooLong
  if maxText < location.length then throw .locationTooLong
  if name = [] then throw .nameEmpty
  let lat ← readNumber "latitude" lat
  let lon ← readNumber "longitude" lon
  let elevation ← readNumber "elevation" elevation
  let lat ← directed "latitude" "N or S" 'N' 'S' latDir lat
  let lon ← directed "longitude" "E or W" 'E' 'W' lonDir lon
  return ⟨String.ofList name, readLocation location, lat, lon, elevation, area⟩

/-- The volcano of a line. -/
def readRecord (area : Float) (line : List Char) : Except Fault Volcano :=
  match (line.splitOn ':').map Text.trim with
  | name :: location :: lat :: latDir :: lon :: lonDir :: elevation :: _ =>
    readFields area name location lat latDir lon lonDir elevation
  | fields => .error (.tooFewFields fields.length)

/-- The failure of a line, counted from 1. -/
def failure (line : Nat) (fault : Fault) : FormError :=
  .volcanoList line fault.reason

/-- The volcanoes of the lines from a line number on, when there is room for so many more. -/
def readRecords (area : Float) (room line : Nat) :
    List (List Char) → Except FormError (List Volcano)
  | [] => .ok []
  | text :: rest =>
    if Text.isBlankText text then readRecords area room (line + 1) rest
    else
      match room with
      | 0 => .error (failure line .tooManyRecords)
      | room + 1 =>
        match readRecord area text with
        | .error fault => .error (failure line fault)
        | .ok volcano =>
          match readRecords area room (line + 1) rest with
          | .error e => .error e
          | .ok volcanoes => .ok (volcano :: volcanoes)

/-- The line begins with the header. -/
def isHeader (line : List Char) : Bool :=
  header.toList.isPrefixOf line

/-- The table of a listing. -/
def read (text : String) (area : Float) : Except FormError VolcanoTable :=
  match Text.lines text.toList with
  | [] => .error (failure 1 .missingHeader)
  | first :: rest =>
    if isHeader first then (readRecords area maxRecords 2 rest).map VolcanoTable.mk
    else .error (failure 1 .missingHeader)

end PlumeForm.Listing
