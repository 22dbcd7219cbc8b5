import PlumeForm.Text.Blank
import PlumeForm.Text.Caseless
import PlumeForm.Text.Quoted
import PlumeForm.Text.Unsigned

/-!
# Window features

The features of a popup window are written as a list of items between commas, such as
`toolbar=no,width=500,height=200,scrollbars=yes`. In reading, white space around items, keys and
values does not count, an item without `=` has the value `yes`, the case of keys does not count, the
last item of a key wins and items with other keys are passed over.
-/

namespace PlumeForm

/-- The features of a popup window; a size that is not given is left to the browser. -/
structure WindowFeatures where
  toolbar : Bool
  width : Option UInt32
  height : Option UInt32
  scrollbars : Bool
deriving DecidableEq, Repr

/-- An item of a feature text has a value that its key does not allow. -/
inductive FeatureError where
  /-- The value is no yes or no. -/
  | flag (key value : String)
  /-- The value is no size in pixels. -/
  | size (key value : String)
deriving DecidableEq, Repr

/-- The wording of the fault. -/
def FeatureError.message : FeatureError → String
  | flag key value => "window feature " ++ key ++ " expects yes/no, got " ++ Text.quote value
  | size key value =>
    "window feature " ++ key ++ " expects a pixel size, got " ++ Text.quote value

namespace WindowFeatures

/-- Nothing but the page: what an empty feature text asks for. -/
def bare : WindowFeatures := ⟨false, none, none, false⟩

/-- The features of the help window. -/
def help : WindowFeatures := ⟨false, some 500, some 200, true⟩

/-! ## Writing -/

/-- A flag as it is written. -/
def flagText (b : Bool) : List Char :=
  (if b then "yes" else "no").toList

/-- A size item, absent when there is no size. -/
def sizeItem (key : String) : Option UInt32 → List (List Char)
  | none => []
  | some n => [key.toList ++ '=' :: Nat.toDigits 10 n.toNat]

/-- The items of the feature text, in order. -/
def items (f : WindowFeatures) : List (List Char) :=
  ["toolbar=".toList ++ flagText f.toolbar] ++ sizeItem "width" f.width ++
    sizeItem "height" f.height ++ ["scrollbars=".toList ++ flagText f.scrollbars]

/-- The feature text. -/
def render (f : WindowFeatures) : String :=
  String.ofList ([','].intercalate f.items)

/-! ## Reading -/

/-- The key and the value of an item: what stands before and after its first `=`. -/
def keyValue (item : List Char) : List Char × List Char :=
  match item.span (· ≠ '=') with
  | (key, _ :: value) => (key, value)
  | (key, []) => (key, "yes".toList)

/-- The keys and values of a feature text, in order; items of white space only are left out. -/
def pairs (text : List Char) : List (String × String) :=
  (((text.splitOn ',').map Text.trim).filter (· ≠ [])).map fun item =>
    let (key, value) := keyValue item
    (String.ofList (Text.lowerAscii (Text.trim key)), String.ofList (Text.trim value))

/-- The words for yes and no. -/
def readFlag? (value : String) : Option Bool :=
  let word := String.ofList (Text.lowerAscii value.toList)
  if word = "yes" ∨ word = "1" ∨ word = "true" then some true
  else if word = "no" ∨ word = "0" ∨ word = "false" then some false
  else none

/-- A size in pixels, below 2 to the 32nd. -/
def readSize? (value : String) : Option UInt32 :=
  match Text.readUnsigned? value.toList with
  | some n => if n < 2 ^ 32 then some (UInt32.ofNat n) else none
  | none => none

/-- A flag for a key, or the fault in it. -/
def readFlag (key value : String) : Except FeatureError Bool :=
  match readFlag? value with
  | some b => .ok b
  | none => .error (.flag key value)

/-- A size for a key, or the fault in it. -/
def readSize (key value : String) : Except FeatureError UInt32 :=
  match readSize? value with
  | some n => .ok n
  | none => .error (.size key value)

/-- The features with one more item taken into account. -/
def apply (f : WindowFeatures) : String × String → Except FeatureError WindowFeatures
  | (key, value) =>
    if key = "toolbar" then
      (readFlag key value).map fun b => { f with toolbar := b }
    else if key = "scrollbars" then
      (readFlag key value).map fun b => { f with scrollbars := b }
    else if key = "width" then
      (readSize key value).map fun n => { f with width := some n }
    else if key = "height" then
      (readSize key value).map fun n => { f with height := some n }
    else .ok f

/-- The features that a feature text asks for, or the first fault in it. -/
def read (text : String) : Except FeatureError WindowFeatures :=
  (pairs text.toList).foldlM apply bare

end WindowFeatures

/-- A window that is asked for: its address, and a name and features where they are given. -/
structure WindowRequest where
  url : String
  name : Option String := none
  features : Option WindowFeatures := none
deriving DecidableEq, Repr

namespace WindowRequest

/-- The feature text that goes with the request. -/
def featureText (request : WindowRequest) : Option String :=
  request.features.map (·.render)

end WindowRequest

end PlumeForm
