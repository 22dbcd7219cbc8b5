import PlumeForm.Files

/-!
# Working directories

A set of files with relative paths. A path is followed name by name, as a file system does it: `.`
and empty names stay where they are, `..` goes up, every name but the last one must be a
directory, and a path out of the working directory leads nowhere.
-/

namespace PlumeForm

/-- A file: the names on its path, and its bytes. -/
structure File where
  path : List String
  bytes : ByteArray

/-- The files below a working directory. -/
structure Directory where
  files : List File

namespace Directory

/-- Files from their paths and bytes. -/
def ofList (entries : List (String × ByteArray)) : Directory :=
  ⟨entries.map fun e => ⟨(Files.names e.1).filter fun n => !Files.isStay n, e.2⟩⟩

/-- There is a directory at a place. -/
def isDirectory (d : Directory) (place : List String) : Bool :=
  place.isEmpty || d.files.any fun f => place.isPrefixOf f.path && f.path != place

/-- The place that a name leads to from another place. -/
def follow (d : Directory) (place : List String) (name : String) : Option (List String) :=
  if !d.isDirectory place then none
  else if Files.isStay name then some place
  else if name = ".." then if place = [] then none else some place.dropLast
  else some (place ++ [name])

/-- The place that a path leads to. -/
def place? (d : Directory) (path : String) : Option (List String) :=
  if path = "" ∨ path.toList.head? = some '/' then none
  else (Files.names path).foldlM d.follow []

/-- The bytes of the file at a path. -/
def bytes? (d : Directory) (path : String) : Option ByteArray :=
  match d.place? path with
  | some place => (d.files.find? fun f => f.path == place).map (·.bytes)
  | none => none

/-- The files that paths lead to from the directory. -/
def toFiles (d : Directory) : Files := ⟨d.bytes?⟩

end Directory

end PlumeForm
