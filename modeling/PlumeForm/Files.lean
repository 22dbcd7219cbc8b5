/-!
# Files

The files that a program can read, each by its path. The last name on a path, without its
directories, may have an extension.
-/

namespace PlumeForm

/-- The bytes of the file at each path where there is one. -/
structure Files where
  bytes? : String → Option ByteArray

namespace Files

/-- Files by their exact paths. -/
def ofPaths (entries : List (String × ByteArray)) : Files :=
  ⟨fun path => (entries.find? fun e => e.1 == path).map (·.2)⟩

/-- The text of the file at a path, when its bytes are UTF-8. -/
def text? (files : Files) (path : String) : Option String :=
  (files.bytes? path).bind String.fromUTF8?

/-- There is a file at a path. -/
def isFile (files : Files) (path : String) : Bool :=
  (files.bytes? path).isSome

/-! ## Paths -/

/-- The names on a path. -/
def names (path : String) : List String :=
  (path.toList.splitOn '/').map String.ofList

/-- The name that leads nowhere new. -/
def isStay (name : String) : Bool :=
  name = "" || name = "."

/-- The last name on a path; there is none when the path goes up last. -/
def lastName? (path : String) : Option (List Char) :=
  match ((names path).filter fun n => !isStay n).getLast? with
  | some name => if name = ".." then none else some name.toList
  | none => none

/-- What stands behind the last point of the last name, when something stands before that point. -/
def extension? (path : String) : Option String :=
  match lastName? path with
  | none => none
  | some name =>
    match name.reverse.span (· ≠ '.') with
    | (_, []) => none
    | (_, [_]) => none
    | (back, _) => some (String.ofList back.reverse)

end Files

end PlumeForm
