import PlumeForm.Url.Basic
import PlumeForm.Url.Percent

/-!
# Resolving paths

A path is walked piece by piece from the segments of the address that it is relative to. A piece
of one point stays where it is and one of two points goes up; either leaves an empty segment at
the end of the path. A drive letter, such as the one in `/C:/`, is never left by going up.

Tabs and line ends do not count in an address, with one exception: one that stands right behind the
drive letter of a file's path makes a gap, and what follows the gap is a segment of its own.
-/

namespace PlumeForm.UrlPath

/-- The character ends a piece. -/
def isSlash (kind : SchemeKind) (c : Char) : Bool :=
  c == '/' || (kind.isStandard && c == '\\')

/-- The pieces of a text between its slashes. -/
def pieces (kind : SchemeKind) (cs : List Char) : List (List Char) :=
  cs.splitOnP (isSlash kind)

/-- The piece with every percent form of a point written as the point. -/
def showPoints : List Char → List Char
  | '%' :: '2' :: 'e' :: rest => '.' :: showPoints rest
  | '%' :: '2' :: 'E' :: rest => '.' :: showPoints rest
  | c :: rest => c :: showPoints rest
  | [] => []

/-- The piece means the place itself. -/
def isHere (piece : List Char) : Bool :=
  showPoints piece == ['.']

/-- The piece means the place above. -/
def isAbove (piece : List Char) : Bool :=
  showPoints piece == ['.', '.']

/-- A letter with a colon or a bar behind it. -/
def isDrive : List Char → Bool
  | [c, d] => c.isAlpha && (d == ':' || d == '|')
  | _ => false

/-- A letter with a colon behind it. -/
def isColonDrive : List Char → Bool
  | [c, d] => c.isAlpha && d == ':'
  | _ => false

/-- A drive letter that is the whole segment, or that a backslash follows. -/
def isDriveFront : List Char → Bool
  | c :: d :: rest => isDrive [c, d] && (rest = [] || rest.head? = some '\\')
  | _ => false

/-- The segments above; there is nothing above the first one, nor above a drive letter. -/
def goUp (done : List (List Char)) : List (List Char) :=
  match done.getLast? with
  | some last => if isDriveFront last then done else done.dropLast
  | none => []

/-- The mark of a gap in a text. -/
def gap : Char := '\t'

/-- The text without its gaps. -/
def closeGaps (cs : List Char) : List Char :=
  cs.filter (· ≠ gap)

/-- The two segments of the first piece of a file's path that has a gap behind its drive letter. -/
def splitAtGap? (kind : SchemeKind) (done : List (List Char)) (piece : List Char) :
    Option (List (List Char)) :=
  match piece with
  | c :: ':' :: mark :: rest =>
    if kind = .file ∧ done = [] ∧ c.isAlpha ∧ mark = gap then
      some [[c, ':'], Percent.encode Percent.pathSet (closeGaps rest)]
    else none
  | _ => none

/-- The segment that a piece becomes. A drive letter that begins the path of a file has a colon. -/
def segment (kind : SchemeKind) (done : List (List Char)) (piece : List Char) : List Char :=
  if kind = .file ∧ done = [] ∧ isDrive piece then piece.take 1 ++ [':']
  else Percent.encode Percent.pathSet piece

/-- The segments with one more piece behind which others follow. -/
def addPiece (kind : SchemeKind) (done : List (List Char)) (piece : List Char) :
    List (List Char) :=
  match splitAtGap? kind done piece with
  | some names => names
  | none =>
    let piece := closeGaps piece
    if isAbove piece then goUp done
    else if isHere piece then done
    else done ++ [segment kind done piece]

/-- The segments with the last piece. -/
def addLast (kind : SchemeKind) (done : List (List Char)) (piece : List Char) :
    List (List Char) :=
  match splitAtGap? kind done piece with
  | some names => names
  | none =>
    let piece := closeGaps piece
    if isAbove piece then goUp done ++ [[]]
    else if isHere piece then done ++ [[]]
    else done ++ [segment kind done piece]

/-- The segments with more pieces. -/
def walk (kind : SchemeKind) (done : List (List Char)) : List (List Char) → List (List Char)
  | [] => done
  | [piece] => addLast kind done piece
  | piece :: next :: rest => walk kind (addPiece kind done piece) (next :: rest)

/-- One of the pieces becomes a drive letter at the front of a file's path. -/
def entersDrive (done : List (List Char)) : List (List Char) → Bool
  | [] => false
  | piece :: rest =>
    (done.isEmpty && isDrive (closeGaps piece)) || entersDrive (addPiece .file done piece) rest

/-- The path of a file begins with one slash only. -/
def dropEmptyFront (kind : SchemeKind) (names : List (List Char)) : List (List Char) :=
  match kind with
  | .file =>
    match names.dropWhile (· == []) with
    | [] => [[]]
    | rest => rest
  | _ => names

/-- The path that a text leads to from given segments. -/
def resolve (kind : SchemeKind) (done : List (List Char)) (cs : List Char) : UrlPath :=
  .segments (dropEmptyFront kind (walk kind done (pieces kind cs)))

/-- The text without its first slash. -/
def dropSlash (kind : SchemeKind) : List Char → List Char
  | c :: rest => if isSlash kind c then rest else c :: rest
  | [] => []

/-- The segments that a relative path starts from: all but the last one. -/
def parent (names : List (List Char)) : List (List Char) :=
  names.dropLast

/-- The path of a file that a text leads to from the segments of another one. A drive letter at the
end of those stays: where it is all there is the text goes on below it, and elsewhere behind it in
the same segment. -/
def resolveFile (names : List (List Char)) (cs : List Char) : UrlPath :=
  match names.getLast?.filter isColonDrive, pieces .file cs with
  | some drive, first :: rest =>
    if names.length = 1 then resolve .file names cs
    else
      let piece := closeGaps first
      if isAbove piece then
        if rest = [] then .segments names else .segments (walk .file names rest)
      else if isHere piece then
        if rest = [] then .segments (names ++ [[]]) else .segments (walk .file names rest)
      else
        let done := names.dropLast ++ [drive ++ Percent.encode Percent.pathSet piece]
        .segments (walk .file done rest)
  | _, _ => resolve .file (parent names) cs

end PlumeForm.UrlPath
