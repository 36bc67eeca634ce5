import CredentialRotation.Files.Disk

/-!
What a machine lets be done with the files of a tree. To read a file and to write one are two
rights, and to write takes two steps: the file is created, or emptied if it is there, and then it is
filled.
-/
namespace CredentialRotation

/-- The conditions under which the files of a tree are used, for each path. -/
structure Conditions where
  /-- Why nothing can be read, whatever is there. -/
  unreadable : String → Option FileFailure
  /-- Why no file can be opened to be written. -/
  unwritable : String → Option FileFailure
  /-- How many octets a file can take, and why no more. -/
  room : String → Option (Nat × FileFailure)
  /-- There is a device that takes what it is given and holds nothing. -/
  isSink : String → Bool

namespace Conditions

/-- Everything is allowed, and there is room for everything. The null device lies outside of the
tree. -/
def usual : Conditions where
  unreadable _ := none
  unwritable _ := none
  room _ := none
  isSink path := path == "/dev/null"

def read (k : Conditions) (disk : Disk) (path : String) : Except FileFailure Octets :=
  match k.unreadable path with
  | some failure => .error failure
  | none => if k.isSink path then .ok [] else disk.read path

/-- Puts octets in place of what a file held. -/
def put (k : Conditions) (disk : Disk) (path : String) (data : Octets) : Except FileFailure Disk :=
  if k.isSink path then .ok disk else disk.write path data ⟨0, 0⟩

/-- Creates an empty file, or empties the file that is there. -/
def create (k : Conditions) (disk : Disk) (path : String) : Except FileFailure Disk :=
  match k.unwritable path with
  | some failure => .error failure
  | none => k.put disk path []

/-- The octets that a file takes of those that it is given, and whether these are all. -/
def taken (k : Conditions) (path : String) (data : Octets) : Octets × Except FileFailure Unit :=
  match k.room path with
  | none => (data, .ok ())
  | some (most, failure) =>
    if data.length ≤ most then (data, .ok ()) else (data.take most, .error failure)

/-- Writes into a file that was created. What was written before a failure stays there. -/
def fill (k : Conditions) (disk : Disk) (path : String) (data : Octets) :
    Except FileFailure Unit × Disk :=
  let (part, result) := k.taken path data
  match k.put disk path part with
  | .ok disk => (result, disk)
  | .error failure => (.error failure, disk)

/-- Creates a file and writes into it. -/
def save (k : Conditions) (disk : Disk) (path : String) (data : Octets) :
    Except FileFailure Unit × Disk :=
  match k.create disk path with
  | .error failure => (.error failure, disk)
  | .ok emptied => k.fill emptied path data

end Conditions
end CredentialRotation
