import PlumeForm.Field
import PlumeForm.Text.Quoted

/-!
# What can go wrong on a form

Every failure of a form operation is one of nine causes. Each cause has a wording (`message`) and
belongs to one of four classes (`code`).
-/

namespace PlumeForm

/-- The text that a user is shown for a date that is not accepted. -/
def badEruptionDateText : String :=
  "Bad eruption date specification; use YYYY MM DD HH:MM"

/-- A class of failures, as reports name it. -/
inductive ErrorCode where
  | validation
  | outOfRange
  | missingField
  | volcanoList
deriving DecidableEq, Repr

namespace ErrorCode

/-- Every class. -/
def all : List ErrorCode := [validation, outOfRange, missingField, volcanoList]

/-- The word that reports use for the class. -/
def name : ErrorCode → String
  | validation => "validation"
  | outOfRange => "out_of_range"
  | missingField => "missing_field"
  | volcanoList => "volcano_list"

end ErrorCode

/-- Why a form operation failed. -/
inductive FormError where
  /-- The selector has no selection. -/
  | noSelection
  /-- The selector points past the end of the table. -/
  | selectionOutOfRange (index length : Nat)
  /-- The selector has no entry that could stand for an unknown volcano. -/
  | noUnknownEntry
  /-- The eruption date did not pass its check. -/
  | badEruptionDate (value : String)
  /-- The text of a control is no finite number. -/
  | invalidNumber (field : Field) (value : String)
  /-- The form lacks a control. -/
  | missingField (field : Field)
  /-- The values of a flat table do not fall into four equal blocks. -/
  | raggedVolcanoTable (values : Nat)
  /-- A flat table has more or fewer names than records. -/
  | volcanoNameCount (names records : Nat)
  /-- A line of a volcano listing is at fault. -/
  | volcanoList (line : Nat) (reason : String)
deriving DecidableEq, Repr

namespace FormError

/-- The wording of the failure. -/
def message : FormError → String
  | noSelection => "no volcano is selected"
  | selectionOutOfRange index length =>
    "volcano selection " ++ toString index ++ " is out of range for " ++ toString length ++
      " entries"
  | noUnknownEntry => "volcano selector has no entries to mark as unknown"
  | badEruptionDate _ => badEruptionDateText
  | invalidNumber field value => "invalid number for " ++ field.name ++ ": " ++ Text.quote value
  | missingField field => "form field " ++ field.name ++ " is missing"
  | raggedVolcanoTable values =>
    "flat volcano table has " ++ toString values ++ " values, which is not a multiple of 4"
  | volcanoNameCount names records =>
    "volcano table has " ++ toString names ++ " names for " ++ toString records ++ " records"
  | volcanoList line reason => "volcano list line " ++ toString line ++ ": " ++ reason

/-- The class of the failure. -/
def code : FormError → ErrorCode
  | noSelection => .outOfRange
  | selectionOutOfRange .. => .outOfRange
  | noUnknownEntry => .outOfRange
  | badEruptionDate _ => .validation
  | invalidNumber .. => .validation
  | missingField _ => .missingField
  | raggedVolcanoTable _ => .volcanoList
  | volcanoNameCount .. => .volcanoList
  | volcanoList .. => .volcanoList

end FormError

/-- A failure as it is reported: its class and its wording. -/
structure ErrorReport where
  code : ErrorCode
  message : String
deriving DecidableEq, Repr

/-- The report of a failure. -/
def FormError.report (e : FormError) : ErrorReport :=
  ⟨e.code, e.message⟩

end PlumeForm
