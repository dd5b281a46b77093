import Anchormark.Host.Basic

/-!
# A Machine

A small model of an operating system: files in folders, a working folder, variables, an input, and
the text printed so far. All of it is a value, so a run on a machine is a function, and what the run
did is the difference between two machines.

A path is followed name by name. Every name but the last has to be a folder, also one that `..`
leaves again.

## Main definitions

* `Machine`: the state of the world.
* `Machine.locate?`: the place that a path names.
* `Machine.host`: the machine as a host.
-/

namespace Anchormark

/-- What a place holds. -/
inductive Entry
  | file (content : ByteArray)
  | folder

/-- A place in the file system: the names from the root on. -/
abbrev Place := List String

/-- The state of the world around a program. -/
structure Machine where
  entries : Place → Option Entry
  /-- The working folder. -/
  folder : Place := []
  environment : String → Option String := fun _ => none
  input : ByteArray := .empty
  printed : String := ""

namespace Machine

/-- A place is a folder. The root always is. -/
def isFolder (w : Machine) (place : Place) : Bool :=
  place.isEmpty ||
    match w.entries place with
    | some .folder => true
    | _ => false

/-- Follows names from a place. With `making`, folders that are missing on the way are taken to be
    there. -/
def follow? (w : Machine) (making : Bool) : Place → List String → Option Place
  | place, [] => some place
  | place, name :: names =>
    if w.isFolder place || (making && (w.entries place).isNone) then
      if name = "" || name = "." then w.follow? making place names
      else if name = ".." then w.follow? making place.dropLast names
      else w.follow? making (place ++ [name]) names
    else none

/-- The place that a path names. A path that begins with a slash starts at the root. -/
def locate? (w : Machine) (making : Bool) (path : String) : Option Place :=
  if path.isEmpty then none
  else w.follow? making (if path.startsWith "/" then [] else w.folder) (path.splitOn "/")

/-- The content of the file at a path. -/
def read (w : Machine) (path : String) : Except ReadFailure ByteArray :=
  match w.locate? false path with
  | none => .error .missing
  | some place =>
    if w.isFolder place then .error .unreadable
    else
      match w.entries place with
      | some (.file content) => .ok content
      | _ => .error .missing

/-- The machine with this content in a file and, with `making`, folders on the way to it. -/
def put (w : Machine) (making : Bool) (place : Place) (content : ByteArray) : Machine :=
  { w with entries := fun p =>
      if p = place then some (.file content)
      else if making && p.isPrefixOf place && (w.entries p).isNone then some .folder
      else w.entries p }

/-- Writes a file, if its path leads to a place that is no folder. -/
def write? (w : Machine) (making : Bool) (path : String) (text : String) : Option Machine := do
  let place ← w.locate? making path
  if w.isFolder place then none else some (w.put making place text.toUTF8)

/-- The machine as the world around a program. -/
def host : Host (StateM Machine) where
  environment _ := return (← get).environment
  readFile path := return (← get).read path
  readInput := return (← get).input
  writeFile making path text := do
    match (← get).write? making path text with
    | some w =>
      set w
      return true
    | none => return false
  print text := modify fun w => { w with printed := w.printed ++ text }

end Machine

end Anchormark
