import PlumeForm.Page.Form
import PlumeForm.Volcano
import PlumeForm.Decimal.Writer

/-!
# The volcano selector

Choosing a volcano copies its numbers into the form. Giving a position by hand moves the selector to
its last entry, which stands for an unknown volcano.
-/

namespace PlumeForm.Selection

/-- The controls that a volcano fills. -/
def controls : List Field := [.lat, .lon, .plumeMin, .area]

/-- The texts that a volcano fills them with. -/
def texts (volcano : Volcano) : List (Field × String) :=
  [(.lat, Decimal.fieldText volcano.lat), (.lon, Decimal.fieldText volcano.lon),
    (.plumeMin, Decimal.fieldText volcano.plumeMin), (.area, Decimal.fieldText volcano.area)]

/-- The selected volcano. -/
def chosen (table : VolcanoTable) : FormAction Volcano := do
  match (← get).selected with
  | some index => table.get index
  | none => throw .noSelection

/-- The selected volcano fills its controls. -/
def populate (table : VolcanoTable) : FormAction Volcano := do
  let volcano ← chosen table
  FormAction.demand controls
  FormAction.writeAll (texts volcano)
  return volcano

/-- The selector of so many entries shows the last one. -/
def selectUnknown : Nat → FormAction Unit
  | 0 => throw .noUnknownEntry
  | count + 1 => modify (·.select count)

end PlumeForm.Selection
