import CredentialRotation.Credential.Chain
import CredentialRotation.Credential.Key

/-!
Snapshots: a key paired with its chain, ready to be served.
-/
namespace CredentialRotation

/-- What is handed out in handshakes: the encoded chain, and what signs for it. -/
structure CertifiedKey where
  chain : List Octets
  signer : Rsa.Components
  deriving DecidableEq, Repr

/-- A key and its chain. Whether they belong together is left to whoever pairs them. -/
structure Snapshot where
  key : PrivateKey
  chain : Chain
  certified : CertifiedKey
  nonempty : chain.certificates ≠ []
  deriving DecidableEq, Repr

namespace Snapshot

/-- Pairs a key with its chain. An empty chain is refused first, then a key that cannot sign. -/
def make (key : PrivateKey) (chain : Chain) : Except CredentialFailure Snapshot :=
  if nonempty : chain.certificates ≠ [] then do
    let signer ← key.signer
    return { key, chain, certified := ⟨chain.ders, signer⟩, nonempty }
  else .error .emptyChain

/-- The first certificate of the chain. -/
def leaf (s : Snapshot) : Certificate :=
  s.chain.certificates.head s.nonempty

/-- A snapshot as text, with the text of the moment at which it was made. -/
def shown (s : Snapshot) (loadedAt : String) : String :=
  Shown.record "CredentialSnapshot" [("key", s.key.shown), ("chain", s.chain.shown),
    ("loaded_at", loadedAt)]

/-- Pairs the key and the chain that two texts hold; the key is read first. -/
def decode (keyText chainText : Octets) : Attempt Snapshot := do
  let key ← PrivateKey.decode keyText
  let chain ← Chain.decode chainText
  match make key chain with
  | .ok s => return s
  | .error failure => throw failure

end Snapshot
end CredentialRotation
