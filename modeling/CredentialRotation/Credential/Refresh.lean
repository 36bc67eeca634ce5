import CredentialRotation.Credential.Store
import CredentialRotation.Files.Program

/-!
Refreshing: one tick looks at the modification times of a key file and a certificate file and, only
if both differ from those of the pair last applied, loads and publishes the pair.
-/
namespace CredentialRotation

/-- Two watched files, and the modification times of the pair last applied. -/
structure WatchState where
  files : IdentityFiles
  lastKey : Option Moment
  lastCertificates : Option Moment
  deriving DecidableEq, Repr

namespace WatchState

/-- Nothing was applied yet. -/
def fresh (files : IdentityFiles) : WatchState := ⟨files, none, none⟩

/-- Both times differ from those last applied. -/
def bothChanged (w : WatchState) (key certificates : Moment) : Bool :=
  w.lastKey ≠ some key && w.lastCertificates ≠ some certificates

def advance (w : WatchState) (key certificates : Moment) : WatchState :=
  { w with lastKey := some key, lastCertificates := some certificates }

def shown (w : WatchState) : String :=
  Shown.record "FileWatchState" [("key_path", Shown.text w.files.key),
    ("cert_path", Shown.text w.files.certificates),
    ("last_key_modified", Shown.option Moment.shown w.lastKey),
    ("last_cert_modified", Shown.option Moment.shown w.lastCertificates)]

/-- The text of a refresher with this state. -/
def shownRefresher (w : WatchState) : String :=
  Shown.record "FileRefresher" [("state", w.shown)]

end WatchState

/-- The two ways in which a tick can succeed. -/
inductive TickKind
  | unchanged
  | reloaded
  deriving DecidableEq, Repr

namespace TickKind

def word : TickKind → String
  | .unchanged => "unchanged"
  | .reloaded => "reloaded"

def shown : TickKind → String
  | .unchanged => "Unchanged"
  | .reloaded => "Reloaded"

def isReloaded (k : TickKind) : Bool := k = .reloaded

def all : List TickKind := [.unchanged, .reloaded]

end TickKind

/-- What a tick came to. -/
inductive Tick
  | unchanged
  | reloaded (key certificates : Moment) (snapshot : Snapshot)
  deriving DecidableEq, Repr

namespace Tick

def kind : Tick → TickKind
  | .unchanged => .unchanged
  | .reloaded .. => .reloaded

/-- The outcome of a tick that found the gate open: the pair that the two texts hold. -/
def load (files : IdentityFiles) (key certificates : Moment) (keyText chainText : Octets) :
    Attempt Tick := do
  let s ← Snapshot.decode keyText chainText
  Attempt.report (.identityLoaded files s.leaf.serialText s.chain.size)
  return .reloaded key certificates s

/-- An attempt in which looking at a file failed. -/
private def failed (path : String) (cause : FileFailure) : Attempt Tick :=
  throw (.io path cause)

private def closed (files : IdentityFiles) : Attempt Tick := do
  Attempt.report (.gateClosed files)
  return .unchanged

/-- One tick: both times, then, if the gate is open, both files. -/
def program (w : WatchState) : FileProgram (Attempt Tick) :=
  let keyPath := w.files.key
  let chainPath := w.files.certificates
  .modified keyPath fun
    | .error cause => .done (failed keyPath cause)
    | .ok key => .modified chainPath fun
      | .error cause => .done (failed chainPath cause)
      | .ok certificates =>
        if !w.bothChanged key certificates then .done (closed w.files)
        else .read keyPath fun
          | .error cause => .done (failed keyPath cause)
          | .ok keyText => .read chainPath fun
            | .error cause => .done (failed chainPath cause)
            | .ok chainText => .done (load w.files key certificates keyText chainText)

/-- A tick for a scheduler: a failure is reported and has no outcome. -/
def guarded (files : IdentityFiles) (x : Attempt Tick) : Logged (Option Tick) :=
  ⟨x.outcome.toOption, x.events ++
    match x.outcome with
    | .ok _ => []
    | .error failure => [.refreshFailed files failure]⟩

end Tick

/-- What refreshing changes. -/
structure Refresher where
  watch : WatchState
  store : Store
  deriving DecidableEq, Repr

/-- Only a reload publishes and moves the watch state on. -/
def Refresher.apply (r : Refresher) : Tick → Refresher
  | .unchanged => r
  | .reloaded key certificates s => ⟨r.watch.advance key certificates, r.store.set s⟩

namespace Snapshot

/-- Loads a pair once: the key file is read first, then the certificate file. -/
def loadProgram (files : IdentityFiles) : FileProgram (Attempt Snapshot) :=
  .read files.key fun
    | .error cause => .done (throw (.io files.key cause))
    | .ok keyText => .read files.certificates fun
      | .error cause => .done (throw (.io files.certificates cause))
      | .ok chainText => .done (Snapshot.decode keyText chainText)

/-- Loads a pair once from files that stand still. -/
def load (fs : FileSystem) (files : IdentityFiles) : Attempt Snapshot :=
  (loadProgram files).run fs

end Snapshot

/-- Loads a pair once and publishes it. -/
def IdentityManager.updateFromFiles (m : IdentityManager) (fs : FileSystem)
    (files : IdentityFiles) : Attempt IdentityManager := do
  let s ← Snapshot.load fs files
  ExceptT.lift (m.publish s)

end CredentialRotation
