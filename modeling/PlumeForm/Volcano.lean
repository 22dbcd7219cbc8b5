import PlumeForm.FormError
import PlumeForm.Text.Caseless

/-!
# Volcano tables

A table lists volcanoes in the order of the selector's options. It is looked up by option index
(`get`) or by name, ignoring the case of ASCII letters (`position?`), and can be given as flat
blocks of numbers (`ofFlat`): all latitudes, then all longitudes, plume minima and source areas.
-/

namespace PlumeForm

/-- A volcano: degrees north and east, the plume's lowest height and the source area. -/
structure Volcano where
  name : String
  location : Option String
  lat : Float
  lon : Float
  plumeMin : Float
  area : Float
deriving DecidableEq, Repr

/-- The volcanoes behind a selector, in option order. -/
structure VolcanoTable where
  entries : List Volcano
deriving DecidableEq, Repr

namespace VolcanoTable

/-- The table without volcanoes. -/
def empty : VolcanoTable := ⟨[]⟩

/-- How many volcanoes the table lists. -/
def length (table : VolcanoTable) : Nat :=
  table.entries.length

/-- The volcano at an option index. -/
def get (table : VolcanoTable) (index : Nat) : Except FormError Volcano :=
  match table.entries[index]? with
  | some volcano => .ok volcano
  | none => .error (.selectionOutOfRange index table.length)

/-- The names are the same but for the case of ASCII letters. -/
def sameName (a b : String) : Bool :=
  Text.equalCaseless a.toList b.toList

/-- The index of the first volcano of that name. -/
def position? (table : VolcanoTable) (name : String) : Option Nat :=
  table.entries.findIdx? fun volcano => sameName volcano.name name

/-- Volcanoes from their names and four lists of numbers; the shortest list ends the table. -/
def ofBlocks : List String → List Float → List Float → List Float → List Float → List Volcano
  | name :: names, lat :: lats, lon :: lons, plumeMin :: plumeMins, area :: areas =>
    ⟨name, none, lat, lon, plumeMin, area⟩ :: ofBlocks names lats lons plumeMins areas
  | _, _, _, _, _ => []

/-- A table from names and one flat list of numbers: as many latitudes as there are volcanoes, then
as many longitudes, plume minima and source areas. -/
def ofFlat (names : List String) (values : List Float) : Except FormError VolcanoTable :=
  if values.length % 4 ≠ 0 then .error (.raggedVolcanoTable values.length)
  else
    let count := values.length / 4
    if names.length ≠ count then .error (.volcanoNameCount names.length count)
    else
      .ok ⟨ofBlocks names (values.take count) ((values.drop count).take count)
        ((values.drop (2 * count)).take count) ((values.drop (3 * count)).take count)⟩

/-- The names of the table. -/
def names (table : VolcanoTable) : List String :=
  table.entries.map (·.name)

/-- The four blocks of numbers of the table, one after the other. -/
def flatValues (table : VolcanoTable) : List Float :=
  table.entries.map (·.lat) ++ table.entries.map (·.lon) ++ table.entries.map (·.plumeMin) ++
    table.entries.map (·.area)

@[simp] theorem get_eq_ok_iff {table : VolcanoTable} {i : Nat} {v : Volcano} :
    table.get i = .ok v ↔ table.entries[i]? = some v := by
  unfold get
  split <;> simp_all

end VolcanoTable

end PlumeForm
