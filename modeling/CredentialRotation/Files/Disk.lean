import CredentialRotation.Files.Program
import CredentialRotation.Text.Utf8

/-!
A tree of files below a working directory, and the way a path leads through it. What lies outside
of the tree exists only as directories that hold nothing.
-/
namespace CredentialRotation

inductive Node
  | file (data : Octets) (modified : Moment)
  | directory
  deriving DecidableEq, Repr

/-- The nodes by the names that lead to them from the working directory. -/
structure Disk where
  nodes : List (List String × Node)
  deriving DecidableEq, Repr

namespace Disk

def empty : Disk := ⟨[]⟩

/-- A place that a path leads to. -/
inductive Place
  | inside (names : List String)
  | outside
  deriving DecidableEq, Repr

/-- The end of a path: something that is there, or a name missing in a directory. -/
inductive Target
  | found (place : Place) (node : Node)
  | missing (parent : Place) (name : String)
  deriving DecidableEq, Repr

def node? (disk : Disk) : Place → Option Node
  | .outside => some .directory
  | .inside [] => some .directory
  | .inside names => disk.nodes.lookup names

def child : Place → String → Option Place
  | .inside names, name => some (.inside (names ++ [name]))
  | .outside, _ => none

def parent : Place → Place
  | .inside [] => .outside
  | .inside names => .inside names.dropLast
  | .outside => .outside

def longestName : Nat := 255
def longestPath : Nat := 4095

def walk (disk : Disk) (place : Place) (node : Node) :
    List String → Except FileFailure Target
  | [] => .ok (.found place node)
  | name :: names =>
    if node ≠ .directory then .error .notDirectory
    else if name = "." then walk disk place .directory names
    else if name = ".." then walk disk (parent place) .directory names
    else if (Utf8.ofString name).length > longestName then .error .nameTooLong
    else
      match (child place name).bind fun p => (disk.node? p).map (p, ·) with
      | some (p, n) => walk disk p n names
      | none => if names.isEmpty then .ok (.missing place name) else .error .notFound

def endsInSlash (path : String) : Bool :=
  path.toList.getLast? = some '/'

/-- What stands between the slashes of a path. -/
def parts (path : String) : List String :=
  (path.toList.splitOn '/').map String.ofList

/-- Follows a path from the working directory. -/
def locate (disk : Disk) (path : String) : Except FileFailure Target :=
  let names := (parts path).filter (· ≠ "")
  let start : Place := if path.toList.head? = some '/' then .outside else .inside []
  if path.toList.contains '\x00' then .error .nulInName
  else if path.isEmpty then .error .notFound
  else if (Utf8.ofString path).length > longestPath then .error .nameTooLong
  else walk disk start .directory names

/-- What a path leads to; a final slash asks for a directory. -/
def find (disk : Disk) (path : String) : Except FileFailure Node := do
  match ← disk.locate path with
  | .found _ node =>
    if endsInSlash path ∧ node ≠ .directory then throw .notDirectory
    return node
  | .missing .. => throw .notFound

def read (disk : Disk) (path : String) : Except FileFailure Octets := do
  match ← disk.find path with
  | .file data _ => return data
  | .directory => throw .isDirectory

def modified (disk : Disk) (path : String) : Except FileFailure Moment := do
  match ← disk.find path with
  | .file _ modified => return modified
  | .directory => return ⟨0, 0⟩

/-- The tree as files that stand still. -/
def fileSystem (disk : Disk) : FileSystem :=
  ⟨disk.modified, disk.read⟩

def set (disk : Disk) (names : List String) (node : Node) : Disk :=
  ⟨(names, node) :: disk.nodes.filter fun (other, _) => other ≠ names⟩

/-- Writes a file whose directory exists, replacing what it held. -/
def write (disk : Disk) (path : String) (data : Octets) (modified : Moment) :
    Except FileFailure Disk := do
  match ← disk.locate path with
  | .found _ .directory => throw .isDirectory
  | .found (.inside names) (.file ..) =>
    if endsInSlash path then throw .isDirectory
    return disk.set names (.file data modified)
  | .missing (.inside names) name =>
    if endsInSlash path then throw .isDirectory
    return disk.set (names ++ [name]) (.file data modified)
  | .found .outside (.file ..) | .missing .outside _ => throw .notFound

/-- Places a node, with the directories that lead to it. -/
def place (disk : Disk) (path : String) (node : Node) : Disk :=
  let names := (parts path).filter fun name => name ≠ "" && name ≠ "."
  let above := (List.range names.length).filterMap fun n =>
    if n = 0 then none else some (names.take n)
  let disk := above.foldl (fun d dir =>
    if (d.nodes.lookup dir).isSome then d else d.set dir .directory) disk
  disk.set names node

/-- Takes away a node and all below it. -/
def remove (disk : Disk) (path : String) : Disk :=
  let names := (parts path).filter fun name => name ≠ "" && name ≠ "."
  ⟨disk.nodes.filter fun (other, _) => other.take names.length ≠ names⟩

/-- The names in the working directory, sorted. -/
def names (disk : Disk) : List String :=
  (disk.nodes.filterMap fun (names, _) =>
    match names with
    | [name] => some name
    | _ => none).mergeSort (· ≤ ·)

end Disk
end CredentialRotation
