import CredentialRotation.Files.Failure
import CredentialRotation.Octets

/-!
Work that looks at files, as a value: what it asks for next and how it goes on with the answer. One
and the same work can so be run on files that stand still, on files that change between any two
calls, and on the machine's own files.
-/
namespace CredentialRotation

/-- A moment at which a file was last modified, counted from the start of 1970. -/
structure Moment where
  seconds : Int
  nanos : Nat
  deriving DecidableEq, Repr

def Moment.shown (m : Moment) : String :=
  Shown.record "SystemTime" [("tv_sec", toString m.seconds), ("tv_nsec", toString m.nanos)]

/-- Work over files with a result. -/
inductive FileProgram (α : Type)
  | done (result : α)
  | modified (path : String) (next : Except FileFailure Moment → FileProgram α)
  | read (path : String) (next : Except FileFailure Octets → FileProgram α)

/-- A call that work makes. -/
inductive FileCall
  | modified (path : String)
  | read (path : String)
  deriving DecidableEq, Repr

/-- Files that stand still. -/
structure FileSystem where
  modified : String → Except FileFailure Moment
  read : String → Except FileFailure Octets

namespace FileProgram

def bind {α β : Type} (p : FileProgram α) (f : α → FileProgram β) : FileProgram β :=
  match p with
  | .done a => f a
  | .modified path next => .modified path fun r => (next r).bind f
  | .read path next => .read path fun r => (next r).bind f

instance : Monad FileProgram where
  pure := .done
  bind := bind

/-- Runs work with given ways to answer its calls. -/
def runWith {m : Type → Type} [Monad m] {α : Type}
    (modified : String → m (Except FileFailure Moment))
    (read : String → m (Except FileFailure Octets)) : FileProgram α → m α
  | .done a => pure a
  | .modified path next => do runWith modified read (next (← modified path))
  | .read path next => do runWith modified read (next (← read path))

/-- Runs work on files that stand still. -/
def run {α : Type} (fs : FileSystem) : FileProgram α → α
  | .done a => a
  | .modified path next => run fs (next (fs.modified path))
  | .read path next => run fs (next (fs.read path))

/-- The calls that work makes on files that stand still, in order. -/
def calls {α : Type} (fs : FileSystem) : FileProgram α → List FileCall
  | .done _ => []
  | .modified path next => .modified path :: calls fs (next (fs.modified path))
  | .read path next => .read path :: calls fs (next (fs.read path))

end FileProgram
end CredentialRotation
