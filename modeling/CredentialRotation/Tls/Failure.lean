import CredentialRotation.Trust.Failure

/-!
Why a handshake, or one side's check of the other's certificates, did not succeed.
-/
namespace CredentialRotation

inductive HandshakeFailure
  | peerRejected (reason : String)
  | certificate (cause : Trust.Failure)
  | general (text : String)
  | noCertificatesPresented
  | decryptError
  deriving DecidableEq, Repr

/-- The reason a check gave, if it was a check that failed. -/
def HandshakeFailure.rejection? : HandshakeFailure → Option String
  | .peerRejected reason => some reason
  | _ => none

end CredentialRotation
