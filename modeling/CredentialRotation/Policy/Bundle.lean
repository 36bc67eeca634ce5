import CredentialRotation.Credential.Chain
import CredentialRotation.Files.Program
import CredentialRotation.Trust.Anchor

/-!
Where trusted roots come from. A supplier is asked anew for every handshake, and answers with all
roots or with none.
-/
namespace CredentialRotation

/-- What supplies trusted roots, given the files as they are at that time. -/
abbrev BundleSupplier := FileSystem → Attempt (List Trust.Anchor)

/-- A way to make a trust anchor of the octets of a certificate. -/
abbrev AnchorConversion := Octets → Except Trust.Failure Trust.Anchor

/-- The anchor of every certificate, or what the first certificate without one is refused for. -/
def Chain.anchorsBy (convert : AnchorConversion) (chain : Chain)
    (refuse : Certificate → Trust.Failure → CredentialFailure) :
    Except CredentialFailure (List Trust.Anchor) :=
  chain.certificates.mapM fun c => (convert c.der).mapError (refuse c)

/-- The anchors that the certificates of a chain stand for. -/
def Chain.anchors (chain : Chain) (refuse : Certificate → Trust.Failure → CredentialFailure) :
    Except CredentialFailure (List Trust.Anchor) :=
  chain.anchorsBy Trust.Anchor.ofDer refuse

namespace BundleSupplier

/-- The certificates of a text, none of which has to be there. -/
def ofText (text : Octets) : BundleSupplier := fun _ => do
  let chain ← Chain.decode text
  match chain.anchors fun _ failure => .tls (.certificate failure) with
  | .ok anchors => return anchors
  | .error failure => throw failure

/-- The roots that the text of a file holds, of which there has to be one. -/
def ofContents (convert : AnchorConversion) (path : String) (text : Octets) :
    Attempt (List Trust.Anchor) := do
  let chain ← tryCatch (Chain.decode text) fun
    | .decode cause => throw (.trustBundle (.undecodable path cause))
    | failure => throw failure
  match chain.anchorsBy convert fun c _ => .trustBundle (.unusable path c.serialText) with
  | .error failure => throw failure
  | .ok [] => throw (.trustBundle (.empty path))
  | .ok anchors =>
    Attempt.report (.rootsLoaded anchors.length path)
    return anchors

/-- The certificates of a file, read each time, as a given conversion makes anchors of them. -/
def ofFileBy (convert : AnchorConversion) (path : String) : BundleSupplier := fun fs =>
  match fs.read path with
  | .error cause => throw (.io path cause)
  | .ok text => ofContents convert path text

/-- The anchors that the certificates of a file stand for. -/
def ofFile (path : String) : BundleSupplier :=
  ofFileBy Trust.Anchor.ofDer path

end BundleSupplier
end CredentialRotation
