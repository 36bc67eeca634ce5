import CredentialRotation.Credential.Snapshot

/-!
The store that holds the identity in force. Whoever reads it gets one whole snapshot; publishing
puts another in its place.
-/
namespace CredentialRotation

/-- A snapshot as it was published, told apart from equal ones by a number. -/
structure Published where
  number : Nat
  snapshot : Snapshot
  deriving DecidableEq, Repr

/-- The snapshot in force, if one was ever published, and how many were numbered. -/
structure Store where
  current : Option Published
  numbered : Nat
  deriving DecidableEq, Repr

namespace Store

def empty : Store := ⟨none, 0⟩

/-- Publishes a new snapshot. -/
def set (store : Store) (s : Snapshot) : Store :=
  ⟨some ⟨store.numbered + 1, s⟩, store.numbered + 1⟩

/-- Publishes what was published before. -/
def publish (store : Store) (p : Published) : Store :=
  { store with current := some p }

def snapshot? (store : Store) : Option Snapshot :=
  store.current.map (·.snapshot)

def isConfigured (store : Store) : Bool :=
  store.current.isSome

/-- What handshakes are served with. -/
def certified? (store : Store) : Option CertifiedKey :=
  store.snapshot?.map (·.certified)

def leafSerial? (store : Store) : Option String :=
  store.snapshot?.map fun s => s.leaf.serialText

def shown (store : Store) : String :=
  Shown.record "CredentialStore" [("configured", Shown.bool store.isConfigured),
    ("leaf_serial", Shown.option Shown.text store.leafSerial?)]

end Store

/-- The view of a store that a TLS endpoint asks for its identity. -/
structure IdentityManager where
  store : Store
  deriving DecidableEq, Repr

namespace IdentityManager

def shown (m : IdentityManager) : String :=
  Shown.record "IdentityKeyManager" [("store", m.store.shown)]

/-- The one name that every identity goes by. -/
def soleAlias : String := "default"

def selectAlias (_ : IdentityManager) (_ : Role) : String := soleAlias

/-- The names of the identities for a type of key and the subjects of accepted issuers. -/
def aliases (m : IdentityManager) (role : Role) (_keyType : String) (_issuers : List Octets) :
    List String :=
  [m.selectAlias role]

/-- The name of the identity to present, by the types of key and the subjects of accepted
issuers. -/
def chooseAlias (m : IdentityManager) (role : Role) (_keyTypes : List String)
    (_issuers : List Octets) : String :=
  m.selectAlias role

def currentSnapshot (m : IdentityManager) : Except CredentialFailure Snapshot :=
  match m.store.snapshot? with
  | some s => .ok s
  | none => .error .notConfigured

def currentKey (m : IdentityManager) : Except CredentialFailure PrivateKey :=
  m.currentSnapshot.map (·.key)

def currentChain (m : IdentityManager) : Except CredentialFailure Chain :=
  m.currentSnapshot.map (·.chain)

def privateKey (m : IdentityManager) (_alias : String) : Except CredentialFailure PrivateKey :=
  m.currentKey

def certificateChain (m : IdentityManager) (_alias : String) : Except CredentialFailure Chain :=
  m.currentChain

/-- The identity to present in a handshake, on either side. -/
def resolve (m : IdentityManager) (_ : Role) : Logged (Option CertifiedKey) := do
  let certified := m.store.certified?
  if certified.isNone then Logged.report .identityMissing
  return certified

def hasCertificates (m : IdentityManager) : Bool :=
  m.store.isConfigured

/-- Publishes a snapshot and reports it. -/
def publish (m : IdentityManager) (s : Snapshot) : Logged IdentityManager := do
  Logged.report (.identityUpdated s.leaf.serialText s.chain.size)
  return ⟨m.store.set s⟩

/-- Publishes a key with its chain. -/
def update (m : IdentityManager) (key : PrivateKey) (chain : Chain) : Attempt IdentityManager := do
  match Snapshot.make key chain with
  | .ok s => ExceptT.lift (m.publish s)
  | .error failure => throw failure

end IdentityManager
end CredentialRotation
