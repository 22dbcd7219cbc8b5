/-!
# Settings trees

What a layer of settings says, before it is known which types are wanted. Names do not depend on
case, so a name is kept in small letters. A layer is laid over another one name by name: tables
grow together, and anything else takes the place of what was there. Main statement: what a name
stands for after another name was set (`find?_put`).
-/

namespace PlumeForm

/-- A value in a layer of settings. -/
inductive SettingsTree where
  | null
  | bool (b : Bool)
  | integer (z : Int)
  | real (x : Float)
  | text (s : String)
  | list (items : List SettingsTree)
  | table (members : List (String × SettingsTree))
deriving Repr

namespace SettingsTree

/-- The members of a table. -/
abbrev Members := List (String × SettingsTree)

/-- A character in small form; of the letters beyond ASCII only the Kelvin sign has one among
ASCII. -/
def smallChar (c : Char) : Char :=
  if c = '\u212A' then 'k' else c.toLower

/-- A name in small letters. -/
def smallName (name : String) : String :=
  String.ofList (name.toList.map smallChar)

/-- What a name stands for. -/
def find? (members : Members) (name : String) : Option SettingsTree :=
  (members.find? fun m => m.1 == name).map (·.2)

/-- The members with another meaning for a name. -/
def put (members : Members) (name : String) (value : SettingsTree) : Members :=
  match members with
  | [] => [(name, value)]
  | m :: ms => if m.1 = name then (name, value) :: ms else m :: put ms name value

/-- The members of a table; anything else has none. -/
def membersOf : SettingsTree → Members
  | table members => members
  | _ => []

/-- The items of a list; anything else has none. -/
def itemsOf : SettingsTree → List SettingsTree
  | list items => items
  | _ => []

mutual

/-- The members with a value laid over what a name stands for. -/
def lay (members : Members) (name : String) : SettingsTree → Members
  | table incoming =>
    put members (smallName name)
      (layAll ((find? members (smallName name)).getD (table [])) incoming)
  | value => put members (smallName name) value

/-- A tree with members laid over its own. -/
def layAll (target : SettingsTree) : List (String × SettingsTree) → SettingsTree
  | [] => target
  | (name, value) :: rest => layAll (table (lay (membersOf target) name value)) rest

end

/-! ## Places inside a tree -/

/-- One step into a tree. -/
inductive Step where
  | name (s : String)
  /-- An item of a list; an index below zero counts from its end. -/
  | item (index : Int)
deriving DecidableEq, Repr

/-- The place in a list of that length that an index means. -/
def slot (index : Int) (length : Nat) : Nat :=
  if index < 0 then length - index.natAbs else index.toNat

/-- The items with another one at an index; items that are missing before it are null. -/
def putItem (items : List SettingsTree) (index : Nat) (value : SettingsTree) : List SettingsTree :=
  items.take index ++ List.replicate (index - items.length) null ++ value :: items.drop (index + 1)

/-- The tree with a value laid over what is at a place; tables and lists that are missing are
made. -/
def layAt (value : SettingsTree) : List Step → SettingsTree → SettingsTree
  | [], _ => value
  | [.name n], target => table (lay (membersOf target) n value)
  | .name n :: rest, target =>
    table (put (membersOf target) n
      (layAt value rest ((find? (membersOf target) n).getD null)))
  | .item index :: rest, target =>
    let i := slot index (itemsOf target).length
    list (putItem (itemsOf target) i (layAt value rest (((itemsOf target)[i]?).getD null)))

@[simp] theorem find?_nil (name : String) : find? [] name = none := rfl

theorem find?_cons (m : String × SettingsTree) (ms : Members) (name : String) :
    find? (m :: ms) name = if m.1 = name then some m.2 else find? ms name := by
  unfold find?
  rw [List.find?_cons]
  split <;> simp_all

theorem find?_put (members : Members) (name other : String) (value : SettingsTree) :
    find? (put members name value) other =
      if name = other then some value else find? members other := by
  induction members with
  | nil => simp [put, find?_cons]
  | cons m ms ih =>
    unfold put
    split
    · next h => simp only [find?_cons]; split <;> simp_all
    · simp only [find?_cons, ih]
      split <;> split <;> simp_all

end SettingsTree

end PlumeForm
