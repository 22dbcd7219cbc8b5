import PlumeForm.Text.Caseless
import PlumeForm.Url.Host
import PlumeForm.Url.Path

/-!
# Reading and resolving addresses

A text is read as an absolute address (`read`), or relative to one (`join`). Controls and spaces
at its ends do not count, nor do tabs and line ends but for the gaps in the path of a file.
Everything behind a number sign is the fragment, and what stands behind a question mark before it
is the query.
-/

namespace PlumeForm.Url

/-! ## Cutting a text -/

/-- A tab or a line end. -/
def isLineMark (c : Char) : Bool :=
  c == '\t' || c == '\n' || c == '\r'

/-- A piece goes on with the text. -/
def goesOn : List Char → Bool
  | [] => false
  | c :: rest =>
    if isLineMark c then goesOn rest else c != '/' && c != '\\' && c != '?' && c != '#'

/-- The text without tabs and line ends; where they stand between a letter with a colon and more of
the same piece, they leave a gap. `letter` and `drive` say what the text before ends in. -/
def dropLineMarks (letter drive : Bool) : List Char → List Char
  | [] => []
  | c :: rest =>
    if isLineMark c then
      if drive && goesOn rest then UrlPath.gap :: dropLineMarks false false rest
      else dropLineMarks letter drive rest
    else c :: dropLineMarks c.isAlpha (letter && c == ':') rest

/-- The text that counts. -/
def clean (cs : List Char) : List Char :=
  let isEdge (c : Char) : Bool := c.toNat ≤ 0x20
  dropLineMarks false false (((cs.dropWhile isEdge).reverse.dropWhile isEdge).reverse)

/-- What stands before a mark, and what stands behind it when it is there. -/
def cutAt (mark : Char) : List Char → List Char × Option (List Char)
  | [] => ([], none)
  | c :: rest =>
    if c = mark then ([], some rest)
    else
      let (front, back) := cutAt mark rest
      (c :: front, back)

/-- A text that is cut at its marks. Only its main part has gaps. -/
structure Reference where
  main : List Char
  query : Option (List Char)
  fragment : Option (List Char)

/-- The text cut at its first number sign, and before that at its first question mark. -/
def Reference.ofText (cs : List Char) : Reference :=
  let (front, fragment) := cutAt '#' cs
  let (main, query) := cutAt '?' front
  ⟨main, query.map UrlPath.closeGaps, fragment.map UrlPath.closeGaps⟩

/-- The text with another main part. -/
def Reference.withMain (r : Reference) (main : List Char) : Reference :=
  { r with main := main }

/-- The text without gaps. -/
def Reference.close (r : Reference) : Reference :=
  r.withMain (UrlPath.closeGaps r.main)

/-- A query or a fragment follows the main part. -/
def Reference.hasTail (r : Reference) : Bool :=
  r.query.isSome || r.fragment.isSome

/-- A character of a scheme behind its first one. -/
def isSchemeChar (c : Char) : Bool :=
  c.isAlphanum || c == '+' || c == '-' || c == '.'

/-- The scheme at the front of a text, in small letters, and what follows its colon. -/
def readScheme? (cs : List Char) : Option (String × List Char) :=
  match cs.span isSchemeChar with
  | (c :: name, ':' :: rest) =>
    if c.isAlpha then some (String.ofList (Text.lowerAscii (c :: name)), rest) else none
  | _ => none

/-- A query in percent form. -/
def encodeQuery (kind : SchemeKind) (cs : List Char) : List Char :=
  Percent.encode (if kind.isStandard then Percent.webQuerySet else Percent.querySet) cs

/-- An address with the query and the fragment of a text. -/
def withTail (u : Url) (r : Reference) : Url :=
  { u with
    query := r.query.map (encodeQuery u.kind)
    fragment := r.fragment.map (Percent.encode Percent.fragmentSet) }

/-- An address with the fragment of a text. -/
def withFragment (u : Url) (r : Reference) : Url :=
  { u with fragment := r.fragment.map (Percent.encode Percent.fragmentSet) }

/-! ## Authorities -/

/-- What stands before and behind the last `@` of the part of a text that ends at the first slash.
-/
def cutUser (kind : SchemeKind) (cs : List Char) : Option (List Char × List Char) :=
  let (front, rest) := cs.span fun c => !UrlPath.isSlash kind c
  let (host, user) := front.reverse.span (· ≠ '@')
  match user with
  | [] => none
  | _ :: user => some (user.reverse, host.reverse ++ rest)

/-- The host at the front of a text and what follows it; a colon in brackets belongs to the host. -/
def cutHost (kind : SchemeKind) (inside : Bool) : List Char → List Char × List Char
  | [] => ([], [])
  | c :: rest =>
    if UrlPath.isSlash kind c ∨ (c = ':' ∧ inside = false) then ([], c :: rest)
    else
      let inside := if c = '[' then true else if c = ']' then false else inside
      let (host, rest) := cutHost kind inside rest
      (c :: host, rest)

/-- The port at the front of a text and what follows it. A slash or a backslash ends the port; there
may be no digits. -/
def readPort (cs : List Char) : Except UrlError (Option Nat × List Char) :=
  let (digits, rest) := cs.span Char.isDigit
  let port := Nat.ofDigitChars 10 digits 0
  if 65535 < port then .error .badPort
  else
    match rest with
    | [] => .ok (if digits = [] then none else some port, rest)
    | c :: _ =>
      if c = '/' ∨ c = '\\' then .ok (if digits = [] then none else some port, rest)
      else .error .badPort

/-- The authority of a user part and of what follows it, and the rest of the text. -/
def readHostPort (scheme : String) (user : List Char) (cs : List Char) :
    Except UrlError (Authority × List Char) := do
  let kind := SchemeKind.ofScheme scheme
  let (host, rest) := cutHost kind false cs
  let host ← Host.read kind host
  let (name, password) := cutAt ':' user
  let name := Percent.encode Percent.userSet name
  let password := Percent.encode Percent.userSet (password.getD [])
  match rest with
  | ':' :: rest =>
    if host = .empty then throw .emptyHost
    let (port, rest) ← readPort rest
    return (⟨name, password, host, if port = defaultPort? scheme then none else port⟩, rest)
  | rest =>
    if host = .empty ∧ (name ≠ [] ∨ password ≠ []) then throw .emptyHost
    return (⟨name, password, host, none⟩, rest)

/-- The authority at the front of a text, and what follows it. Behind an empty user part, something
other than the end of the address must follow. -/
def readAuthority (scheme : String) (hasTail : Bool) (cs : List Char) :
    Except UrlError (Authority × List Char) :=
  let kind := SchemeKind.ofScheme scheme
  match cutUser kind cs with
  | none => readHostPort scheme [] cs
  | some ([], []) => if hasTail then .error .emptyHost else readHostPort scheme [] []
  | some ([], c :: rest) =>
    if UrlPath.isSlash kind c then .error .emptyHost else readHostPort scheme [] (c :: rest)
  | some (user, rest) => readHostPort scheme user rest

/-- The path behind an authority. Web addresses have at least one segment. -/
def pathAfterHost (kind : SchemeKind) (cs : List Char) : UrlPath :=
  if cs = [] ∧ kind = .other then .segments []
  else UrlPath.resolve kind [] (UrlPath.dropSlash kind cs)

/-- The address behind a scheme and two slashes. -/
def readHosted (scheme : String) (r : Reference) : Except UrlError Url := do
  let (authority, rest) ← readAuthority scheme r.hasTail r.main
  let path := pathAfterHost (SchemeKind.ofScheme scheme) rest
  return (⟨scheme, some authority, path, none, none⟩ : Url).withTail r

/-! ## Files -/

/-- The host of the local machine, which files do not name. -/
def localHost : List Char := "localhost".toList

/-- The authority of a file's host. -/
def readFileHost (cs : List Char) : Except UrlError Host :=
  if cs = [] then .ok .empty
  else if cs.head? = some '[' then Host.readBracketed cs
  else
    match Host.readDomain cs with
    | .ok (.domain name) => .ok (if name = localHost then .empty else .domain name)
    | other => other

/-- The file behind two slashes. A drive letter is no host, and a path that begins with one
belongs to no host. -/
def readFileHosted (cs : List Char) : Except UrlError Url := do
  let (name, rest) := cs.span fun c => !UrlPath.isSlash .file c
  let (name, rest) := if UrlPath.isDrive name then ([], cs) else (name, rest)
  let host ← readFileHost (UrlPath.closeGaps name)
  if host = .empty then
    return ⟨"file", some ⟨[], [], .empty, none⟩, UrlPath.resolve .file [] rest, none, none⟩
  else
    let rest := UrlPath.dropSlash .file rest
    let host := if UrlPath.entersDrive [] (UrlPath.pieces .file rest) then .empty else host
    return ⟨"file", some ⟨[], [], host, none⟩, UrlPath.resolve .file [] rest, none, none⟩

/-- The text begins with a drive letter that makes a piece of its own. -/
def beginsWithDrive (cs : List Char) : Bool :=
  UrlPath.isDrive (cs.takeWhile fun c => !UrlPath.isSlash .file c)

/-- The file behind one slash. It stays on the drive, or else on the host, of the base. -/
def readFileRooted (base : Option Url) (cs : List Char) : Url :=
  let host (h : Host) : Option Authority := some ⟨[], [], h, none⟩
  match base with
  | none => ⟨"file", host .empty, UrlPath.resolve .file [] cs, none, none⟩
  | some base =>
    if beginsWithDrive cs then ⟨"file", host .empty, UrlPath.resolve .file [] cs, none, none⟩
    else if base.segments.head?.any UrlPath.isColonDrive then
      ⟨"file", host .empty, UrlPath.resolve .file (base.segments.take 1) cs, none, none⟩
    else
      ⟨"file", host ((base.authority.map (·.host)).getD .empty), UrlPath.resolve .file [] cs, none,
        none⟩

/-- The address of a file, relative to that of another file where there is one. -/
def readFile (base : Option Url) (r : Reference) : Except UrlError Url :=
  match r.main with
  | a :: b :: rest =>
    if UrlPath.isSlash .file a ∧ UrlPath.isSlash .file b then
      (readFileHosted rest).map (·.withTail r)
    else if UrlPath.isSlash .file a then .ok ((readFileRooted base (b :: rest)).withTail r)
    else .ok (readFileRelative base r)
  | [a] =>
    if UrlPath.isSlash .file a then .ok ((readFileRooted base []).withTail r)
    else .ok (readFileRelative base r)
  | [] => .ok (readFileRelative base r)
where
  /-- The file that a text without a slash at its front leads to. -/
  readFileRelative (base : Option Url) (r : Reference) : Url :=
    let fresh : Url :=
      ⟨"file", some ⟨[], [], .empty, none⟩, UrlPath.resolve .file [] r.main, none, none⟩
    match base with
    | none => fresh.withTail r
    | some base =>
      if r.main = [] then if r.query.isSome then base.withTail r else base.withFragment r
      else if beginsWithDrive r.main then fresh.withTail r
      else
        { base with path := UrlPath.resolveFile base.segments r.main }.withTail r

/-! ## Everything together -/

/-- Slashes of either kind at the front of a text. -/
def isEitherSlash (c : Char) : Bool :=
  c == '/' || c == '\\'

/-- The address that a text leads to from a base that is no file and has no flat path. -/
def readRelative (base : Url) (r : Reference) : Except UrlError Url :=
  match r.main with
  | [] => .ok (if r.query.isSome then base.withTail r else base.withFragment r)
  | c :: rest =>
    if isEitherSlash c then
      if rest.head?.any isEitherSlash then
        let authority :=
          if c = '/' ∧ rest.head? = some '/' then rest.drop 1 else rest.dropWhile isEitherSlash
        readHosted base.scheme (r.withMain authority)
      else .ok ({ base with path := UrlPath.resolve base.kind [] rest }.withTail r)
    else
      let path := UrlPath.resolve base.kind (UrlPath.parent base.segments) r.main
      .ok ({ base with path := path }.withTail r)

/-- The address behind a scheme that is no web scheme. -/
def readOther (scheme : String) (r : Reference) : Except UrlError Url :=
  match r.main with
  | '/' :: '/' :: rest => readHosted scheme (r.withMain rest)
  | '/' :: rest =>
    .ok ((⟨scheme, none, UrlPath.resolve .other [] rest, none, none⟩ : Url).withTail r)
  | main => .ok ((⟨scheme, none, .flat (Percent.encode [] main), none, none⟩ : Url).withTail r)

/-- The address behind a scheme. With fewer than two slashes, a web address is relative to a base of
the same scheme; otherwise any number of slashes stands before its host. -/
def readSchemed (base : Option Url) (scheme : String) (r : Reference) : Except UrlError Url :=
  let sameScheme := base.filter fun b => b.scheme = scheme
  match SchemeKind.ofScheme scheme with
  | .file => readFile sameScheme r
  | .other => readOther scheme r.close
  | .web =>
    let r := r.close
    let slashes := r.main.takeWhile isEitherSlash
    let hosted := readHosted scheme (r.withMain (r.main.dropWhile isEitherSlash))
    match sameScheme with
    | some base => if slashes.length < 2 then readRelative base r else hosted
    | none => hosted

/-- The address of a text, relative to a base where there is one. -/
def readFrom (base : Option Url) (text : String) : Except UrlError Url :=
  let r := Reference.ofText (clean text.toList)
  match readScheme? r.main with
  | some (scheme, rest) => readSchemed base scheme (r.withMain (rest.dropWhile (· == UrlPath.gap)))
  | none =>
    match base with
    | none => .error .relativeWithoutBase
    | some base =>
      if base.isFlat then
        if r.main = [] ∧ r.query = none ∧ r.fragment.isSome then .ok (base.withFragment r)
        else .error .relativeToFlatBase
      else if base.kind = .file then readFile (some base) r
      else readRelative base r.close

/-- The absolute address of a text. -/
def read (text : String) : Except UrlError Url :=
  readFrom none text

/-- The address that a text leads to from a base. -/
def join (base : Url) (text : String) : Except UrlError Url :=
  readFrom (some base) text

end PlumeForm.Url
