import PlumeForm.Toml.Basic

/-!
# Tables under construction

A table may be written in several places: under its own header, through the headers of tables
inside it, or through names with points. Which of these came first decides what may follow: a
header may name a table once only, and only if no name with points has made it; a name with points
may not enter a table that a header has made; and no name is given a value twice. `[[…]]` headers
add a table to a list of tables, and later names that pass through the list mean its last table.
-/

namespace PlumeForm.Toml

/-- What has made a table. -/
inductive Origin where
  /-- Its own header. -/
  | header
  /-- The header of a table inside it. -/
  | passing
  /-- A name with points. -/
  | dotted
deriving DecidableEq, Repr

/-- What a name stands for so far. -/
inductive Node where
  | leaf (value : Toml)
  | table (origin : Origin) (members : List (String × Node))
  /-- A list of tables: the last one, and those before it, nearest first. -/
  | tables (last : List (String × Node)) (before : List (List (String × Node)))

namespace Node

/-- The members of a table so far. -/
abbrev Members := List (String × Node)

/-- What the name stands for. -/
def find? (members : Members) (name : String) : Option Node :=
  (members.find? fun m => m.1 == name).map (·.2)

/-- The members with another meaning for a name. -/
def put (members : Members) (name : String) (node : Node) : Members :=
  match members with
  | [] => [(name, node)]
  | m :: ms => if m.1 = name then (name, node) :: ms else m :: put ms name node

/-- The members after a change to the table at a path. The names of the path are written with
points, or stand in a header; tables that are missing are made. -/
def change (dotted : Bool) (act : Origin → Members → Option Members) :
    List String → Origin → Members → Option Members
  | [], origin, members => act origin members
  | name :: path, _, members =>
    match find? members name with
    | none =>
      let origin := if dotted then .dotted else .passing
      (change dotted act path origin []).map fun inner => put members name (.table origin inner)
    | some (.leaf _) => none
    | some (.table origin inner) =>
      if dotted && origin == .header then none
      else
        (change dotted act path origin inner).map fun inner =>
          put members name (.table origin inner)
    | some (.tables last before) =>
      (change dotted act path .header last).map fun last => put members name (.tables last before)

/-- The members of a table after a name with points was given a value in it. -/
def assign (path : List String) (name : String) (value : Toml) (origin : Origin)
    (members : Members) : Option Members :=
  let give (origin : Origin) (members : Members) : Option Members :=
    if (origin == .dotted) == path.isEmpty then none
    else if (find? members name).isSome then none
    else some (put members name (.leaf value))
  change true give path origin members

/-- The members of a table after a header has named a table in it. -/
def openTable (name : String) (_ : Origin) (members : Members) : Option Members :=
  match find? members name with
  | none => some (put members name (.table .header []))
  | some (.table .passing inner) => some (put members name (.table .header inner))
  | _ => none

/-- The members of a table after a header has added to a list of tables in it. -/
def openEntry (name : String) (_ : Origin) (members : Members) : Option Members :=
  match find? members name with
  | none => some (put members name (.tables [] []))
  | some (.tables last before) => some (put members name (.tables [] (last :: before)))
  | _ => none

mutual

/-- The value of what a name stands for. -/
def finish : Node → Toml
  | leaf value => value
  | table _ members => .table (finishMembers members)
  | tables last before => .list ((.table (finishMembers last) :: finishTables before).reverse)

/-- The members of a finished table. -/
def finishMembers : List (String × Node) → List (String × Toml)
  | [] => []
  | (name, node) :: rest => (name, finish node) :: finishMembers rest

/-- Finished tables. -/
def finishTables : List (List (String × Node)) → List Toml
  | [] => []
  | members :: rest => .table (finishMembers members) :: finishTables rest

end

end Node

/-- A name with points and its value: the names before the last point, the last one, and the
value. -/
structure Assignment where
  path : List String
  name : String
  value : Toml

/-- The table of assignments between braces. -/
def tableOf? (assignments : List Assignment) : Option Toml :=
  (assignments.foldlM (fun members a => Node.assign a.path a.name a.value .header members) []).map
    fun members => .table (Node.finishMembers members)

/-- A line of a document. -/
inductive Line where
  | assignment (a : Assignment)
  /-- A header: the names before the last point, and the last one. -/
  | openTable (path : List String) (name : String)
  /-- A header of a list of tables. -/
  | openEntry (path : List String) (name : String)

/-- A document so far: the members of its root, and the path of the table that a header has
opened. -/
structure Outline where
  root : Node.Members := []
  current : List String := []

namespace Outline

/-- The outline with one more line. -/
def step (outline : Outline) : Line → Option Outline
  | .assignment a =>
    (Node.change false (Node.assign a.path a.name a.value) outline.current .header outline.root).map
      fun root => { outline with root := root }
  | .openTable path name =>
    (Node.change false (Node.openTable name) path .header outline.root).map
      fun root => ⟨root, path ++ [name]⟩
  | .openEntry path name =>
    (Node.change false (Node.openEntry name) path .header outline.root).map
      fun root => ⟨root, path ++ [name]⟩

/-- The members of the root of a document. -/
def build? (lines : List Line) : Option (List (String × Toml)) :=
  (lines.foldlM step {}).map fun outline => Node.finishMembers outline.root

end Outline

end PlumeForm.Toml
