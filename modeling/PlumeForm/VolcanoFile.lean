import PlumeForm.Files
import PlumeForm.Listing
import PlumeForm.Toml.Reader

/-!
# Volcano files

A file lists volcanoes as TOML, when the extension of its path says so in any case, and otherwise
as a listing. In TOML, every volcano is a table with a member per field, or a list with the fields
in their order; only the location may be missing.
-/

namespace PlumeForm

/-- The volcano of a TOML value. -/
def Volcano.ofToml? (value : Toml) : Option Volcano :=
  let field? (place : Nat) (name : String) : Option Toml :=
    match value with
    | .table members => Toml.member? members name
    | .list items => items[place]?
    | _ => none
  let number? (place : Nat) (name : String) : Option Float := (field? place name).bind Toml.toFloat?
  let location? : Option (Option String) :=
    match field? 1 "location" with
    | some v => v.toText?.map some
    | none => some none
  match (field? 0 "name").bind Toml.toText?, location?, number? 2 "lat", number? 3 "lon",
    number? 4 "plume_min", number? 5 "area" with
  | some name, some location, some lat, some lon, some plumeMin, some area =>
    some ⟨name, location, lat, lon, plumeMin, area⟩
  | _, _, _, _, _, _ => none

/-- The table of the members of a TOML document; without a list it is empty. -/
def VolcanoTable.ofToml? (members : List (String × Toml)) : Option VolcanoTable :=
  match Toml.member? members "volcano" with
  | some value => (value.toList? Volcano.ofToml?).map VolcanoTable.mk
  | none => some .empty

/-- Why a volcano file cannot be loaded. -/
inductive VolcanoFileError where
  /-- There is no such file, or it holds no text. -/
  | unreadable (path : String)
  /-- The file is no TOML table of volcanoes. -/
  | badTable (path : String)
  /-- The file is no listing. -/
  | badListing (path : String) (cause : FormError)
deriving DecidableEq, Repr

/-- The wording of the failure, and of its cause. -/
def VolcanoFileError.messages : VolcanoFileError → List String
  | unreadable path => ["failed to read volcano table '" ++ path ++ "'"]
  | badTable path => ["invalid volcano table '" ++ path ++ "'"]
  | badListing path cause => ["invalid volcano listing '" ++ path ++ "'", cause.message]

namespace VolcanoFile

/-- The extension of the path is the one of TOML files. -/
def isToml (path : String) : Bool :=
  (Files.extension? path).any fun e => Text.equalCaseless e.toList "toml".toList

/-- The table of a file; a listing gets its source areas from the settings. -/
def load (files : Files) (path : String) (area : Float) : Except VolcanoFileError VolcanoTable :=
  match files.text? path with
  | none => .error (.unreadable path)
  | some text =>
    if isToml path then
      match (Toml.read? text).bind VolcanoTable.ofToml? with
      | some table => .ok table
      | none => .error (.badTable path)
    else (Listing.read text area).mapError (.badListing path)

end VolcanoFile

end PlumeForm
