import PlumeForm.Power

/-!
# JSON values

A value of JSON, with numbers kept apart by how they are written: a whole number without a point or
power of ten, or a double. The members of an object are kept in the order of their first mention; a
later member of the same name takes the place of the earlier one (`put`).
-/

namespace PlumeForm

/-- A number of JSON. -/
inductive JsonNumber where
  | integer (z : Int)
  | real (x : Float)
deriving DecidableEq, Repr

/-- A value of JSON. -/
inductive Json where
  | null
  | bool (b : Bool)
  | number (n : JsonNumber)
  | text (s : String)
  | list (items : List Json)
  | object (members : List (String × Json))
deriving Repr

/-- The double of a number. -/
def JsonNumber.toFloat : JsonNumber → Float
  | integer z => Float.ofInt z
  | real x => x

namespace Json

/-- The members of an object with one more, or with one replaced. -/
def put (members : List (String × Json)) (name : String) (value : Json) : List (String × Json) :=
  match members with
  | [] => [(name, value)]
  | m :: ms => if m.1 = name then (name, value) :: ms else m :: put ms name value

/-- The member of that name. -/
def member? (members : List (String × Json)) (name : String) : Option Json :=
  (members.find? fun m => m.1 == name).map (·.2)

/-- A finite double as a number, any other as `null`. -/
def ofFloat (x : Float) : Json :=
  if x.isFinite then .number (.real x) else .null

/-- A text where there is one, else `null`. -/
def ofText? : Option String → Json
  | some s => .text s
  | none => .null

/-- A whole number. -/
def ofNat (n : Nat) : Json :=
  .number (.integer n)

@[simp] theorem member?_nil (name : String) : member? [] name = none := rfl

theorem member?_cons (m : String × Json) (ms : List (String × Json)) (name : String) :
    member? (m :: ms) name = if m.1 = name then some m.2 else member? ms name := by
  unfold member?
  rw [List.find?_cons]
  split <;> simp_all

end Json

end PlumeForm
