import PlumeForm.Field
import PlumeForm.Url.Reader
import PlumeForm.Url.Writer

/-!
# Frames

A frame shows a document and records where it was sent. A target is resolved against the address
of the document, and the address that comes out becomes the document's; when the document has no
address, or the target leads nowhere, the address stays. The forms of a document are gone once the
frame is sent anywhere.
-/

namespace PlumeForm

/-- One journey of a frame: the target as it was given, and the address that it led to. -/
structure Navigation where
  target : String
  resolved : Option Url
deriving DecidableEq, Repr

/-- A frame: its name, the address of its document, the texts of the controls of the document's
forms, and its journeys, first one first. -/
structure Frame where
  name : String
  documentUrl : Option Url := none
  formText? : String → Field → Option String := fun _ _ => none
  navigations : List Navigation := []

namespace Frame

/-- The frame without a document. -/
def named (name : String) : Frame := { name }

/-- The frame with a text in a control of a form of its document. -/
def seed (frame : Frame) (form : String) (field : Field) (text : String) : Frame :=
  { frame with
    formText? := fun n f => if n = form ∧ f = field then some text else frame.formText? n f }

/-- The address that a target leads to from the frame's document. -/
def resolve (frame : Frame) (target : String) : Option Url :=
  frame.documentUrl.bind fun base => (Url.join base target).toOption

/-- The frame after it was sent to a target. -/
def navigate (frame : Frame) (target : String) : Frame :=
  { frame with
    documentUrl := (frame.resolve target).or frame.documentUrl
    formText? := fun _ _ => none
    navigations := frame.navigations ++ [⟨target, frame.resolve target⟩] }

/-- The target of the last journey. -/
def location (frame : Frame) : Option String :=
  frame.navigations.getLast?.map (·.target)

/-- The recorded journeys, and the frame that has forgotten them. -/
def takeNavigations (frame : Frame) : List Navigation × Frame :=
  (frame.navigations, { frame with navigations := [] })

@[simp] theorem navigations_navigate (frame : Frame) (target : String) :
    (frame.navigate target).navigations =
      frame.navigations ++ [⟨target, frame.resolve target⟩] := rfl

@[simp] theorem formText?_navigate (frame : Frame) (target form : String) (field : Field) :
    (frame.navigate target).formText? form field = none := rfl

@[simp] theorem name_navigate (frame : Frame) (target : String) :
    (frame.navigate target).name = frame.name := rfl

@[simp] theorem location_navigate (frame : Frame) (target : String) :
    (frame.navigate target).location = some target := by
  simp [location]

theorem documentUrl_navigate (frame : Frame) (target : String) :
    (frame.navigate target).documentUrl = (frame.resolve target).or frame.documentUrl := rfl

end Frame

end PlumeForm
