import CredentialRotation.Configuration.Reading
import CredentialRotation.Configuration.Validity
import CredentialRotation.Configuration.Writing
import CredentialRotation.Files.Conditions

/-!
Configurations in files. A program that finds no configuration may write the one to start from, but
then always stops, so that an operator can look at it.
-/
namespace CredentialRotation

/-- A line on one of the two streams of a console. -/
inductive ConsoleLine
  | out (text : String)
  | err (text : String)
  deriving DecidableEq, Repr

namespace Configuration

/-- The configuration in what a file holds. -/
def ofContents (contents : Except FileFailure Octets) :
    Except ConfigurationFailure Configuration :=
  match contents with
  | .error cause => .error (.io cause)
  | .ok data => (ofOctets data).mapError .load

/-- The octets that a file holds for a configuration. -/
def contents (c : Configuration) : Octets := Utf8.encode c.document

/-- What came of loading a configuration, and what the console shows on the way. -/
structure Loading where
  outcome : Except SetupFailure Configuration
  lines : List ConsoleLine

private def notLoaded (cause : ConfigurationFailure) : List ConsoleLine :=
  [.err "No config file found or corrupt.", .err s!"[ERROR] {cause.message}"]

private def creationHint (path : String) : ConsoleLine :=
  .err ("You can either create your own " ++ path ++
    " file, or start this app using '--create-config' as parameter.")

/-- Loads and validates the configuration in a file, with given ways to read and write files. If
there is none and one is to be created, the file is written, and there is still none to go on
with. -/
def load {m : Type → Type} [Monad m] (read : String → m (Except FileFailure Octets))
    (write : String → Octets → m (Except FileFailure Unit)) (path : String) (create : Bool) :
    m Loading := do
  match ofContents (← read path) with
  | .ok c => return ⟨c.validate.map fun _ => c, [.out "[VALIDATE] Validating configuration..."]⟩
  | .error cause =>
    if !create then
      return ⟨.error (.fileNotWanted path), notLoaded cause ++ [creationHint path]⟩
    let lines := notLoaded cause ++ [.err "Creating config file.."]
    match ← write path initial.contents with
    | .ok () =>
      return ⟨.error (.fileCreated path),
        lines ++ [.err s!"Please edit the {path} file, exiting now..."]⟩
    | .error failure =>
      return ⟨.error (.fileNotCreated path),
        lines ++ [.err s!"{path} file could not be created, check permissions...",
          .err failure.message]⟩

/-- Loads a configuration from a tree of files that is used under conditions. -/
def loadUnder (k : Conditions) (path : String) (create : Bool) : StateM Disk Loading :=
  load (m := StateM Disk) (fun path => return k.read (← get) path)
    (fun path data disk => k.save disk path data) path create

/-- Loads a configuration from a tree of files, all of which can be read and written. -/
def loadFrom (path : String) (create : Bool) : StateM Disk Loading :=
  load (m := StateM Disk) (fun path => return (← get).read path)
    (fun path data disk =>
      match disk.write path data ⟨0, 0⟩ with
      | .ok disk => (.ok (), disk)
      | .error failure => (.error failure, disk)) path create

end Configuration
end CredentialRotation
