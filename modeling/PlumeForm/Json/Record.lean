import PlumeForm.Json.Basic

/-!
# Records in JSON

A record is written as an object with a member per field. It may also be given as a list with the
fields in their order; then nothing may follow the last one. Members of other names are ignored.
-/

namespace PlumeForm

/-- A record that is being read. -/
inductive Record where
  | named (members : List (String × Json))
  | placed (items : List Json)

namespace Record

/-- The record of a JSON value, for a record type with so many fields. -/
def ofJson? (fields : Nat) : Json → Option Record
  | .object members => some (named members)
  | .list items => if items.length ≤ fields then some (placed items) else none
  | _ => none

/-- The value of the field with that place and that name. -/
def field? (record : Record) (place : Nat) (name : String) : Option Json :=
  match record with
  | named members => Json.member? members name
  | placed items => items[place]?

/-- A field that must be there. -/
def required {α : Type} (record : Record) (place : Nat) (name : String) (read : Json → Option α) :
    Option α :=
  (record.field? place name).bind read

/-- A field with a default. -/
def optional {α : Type} (record : Record) (place : Nat) (name : String) (default : α)
    (read : Json → Option α) : Option α :=
  match record.field? place name with
  | some value => read value
  | none => some default

@[simp] theorem field?_named (members : List (String × Json)) (place : Nat) (name : String) :
    (named members).field? place name = Json.member? members name := rfl

@[simp] theorem ofJson?_object (fields : Nat) (members : List (String × Json)) :
    ofJson? fields (.object members) = some (named members) := rfl

end Record

namespace Json

/-- A text. -/
def toText? : Json → Option String
  | .text s => some s
  | _ => none

/-- A truth value. -/
def toBool? : Json → Option Bool
  | .bool b => some b
  | _ => none

/-- A double; whole numbers count. -/
def toFloat? : Json → Option Float
  | .number n => some n.toFloat
  | _ => none

/-- A whole number from 0 to below a limit. -/
def toNatBelow? (limit : Nat) : Json → Option Nat
  | .number (.integer (.ofNat n)) => if n < limit then some n else none
  | _ => none

/-- A whole number of 32 bits. -/
def toUInt32? (value : Json) : Option UInt32 :=
  (value.toNatBelow? (2 ^ 32)).map UInt32.ofNat

/-- A value that may be missing, which `null` says. -/
def toOption? {α : Type} (read : Json → Option α) : Json → Option (Option α)
  | .null => some none
  | value => (read value).map some

/-- The items of a list. -/
def toList? {α : Type} (read : Json → Option α) : Json → Option (List α)
  | .list items => items.mapM read
  | _ => none

/-- One of a few words: the word itself, or an object with the word as its only name and `null`. -/
def toWord? {α : Type} (all : List α) (name : α → String) : Json → Option α
  | .text s => all.find? fun a => name a == s
  | .object [(s, .null)] => all.find? fun a => name a == s
  | _ => none

end Json

end PlumeForm
