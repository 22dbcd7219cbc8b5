import PlumeForm.Text.Composed
import PlumeForm.Url.Domain.Direction
import PlumeForm.Url.Domain.Ideograph
import PlumeForm.Url.Domain.Joining
import PlumeForm.Url.Domain.Permitted
import PlumeForm.Url.Domain.Shift
import PlumeForm.Url.Domain.Spelling
import PlumeForm.Url.Punycode

/-!
# Domain names

A domain name is a list of labels with points between them. Its characters are spelled as names
spell them: letters are made small, variants of shape lose their shape, and characters without a
meaning of their own are dropped; the result is composed. A label beyond ASCII is then written in
ASCII behind `xn--`, and one that begins so must be what writing such a label gives.

What a label means may not begin with a mark, its joiners must fit, and letters that run from right
to left put every label of the name under the rule of directions. Marks of ASCII that no host may
hold are not looked at here.
-/

namespace PlumeForm.Domain

/-- How names spell a character; nothing when no name may hold it. -/
def spellChar? (c : Char) : Option (List Char) :=
  if Punycode.isBasic c then some [c.toLower]
  else if isDropped c then some []
  else
    match shifted? c with
    | some d => some [d]
    | none =>
      match (Text.CodeTable.find? spellings c).or (Text.CodeTable.find? ideographs c) with
      | some text => some text
      | none => if isPermitted c then some [c] else none

/-- How names spell a text. -/
def spell? (cs : List Char) : Option (List Char) :=
  (cs.mapM spellChar?).map fun texts => Text.compose texts.flatten

/-- How a label begins that stands for one beyond ASCII. -/
def mark : List Char := "xn--".toList

/-- How long a label may be that stands for one beyond ASCII, without its front. -/
def writtenLimit : Nat := 2000

/-- How long a label beyond ASCII may be. -/
def meantLimit : Nat := 1000

/-- The text is spelled as names spell it. -/
def isSpelled (cs : List Char) : Bool :=
  cs.all (fun c => spellChar? c == some [c]) && Text.compose cs == cs

/-- What a label means. -/
def meaning? (label : List Char) : Option (List Char) :=
  if mark.isPrefixOf label then
    let written := label.drop mark.length
    if label.all Punycode.isBasic && label.getLast? != some '-' &&
        written.length ≤ writtenLimit then
      (Punycode.decode? written).filter isSpelled
    else none
  else some label

/-- A label may mean this. -/
def isLabel (meant : List Char) : Bool :=
  !meant.head?.any Text.isMark && joinersFit [] meant &&
    (meant.all Punycode.isBasic || meant.length ≤ meantLimit)

/-- What a label means, in ASCII. -/
def writeLabel (meant : List Char) : List Char :=
  if meant.all Punycode.isBasic then meant else mark ++ Punycode.encode meant

/-- The name in ASCII. -/
def write? (cs : List Char) : Option (List Char) := do
  let spelled ← spell? cs
  let meanings ← (spelled.splitOn '.').mapM meaning?
  if meanings.all isLabel && directionsFit meanings then
    return ['.'].intercalate (meanings.map writeLabel)
  else none

end PlumeForm.Domain
