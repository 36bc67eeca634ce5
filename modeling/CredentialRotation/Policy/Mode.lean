/-!
How much of a peer's certificate is verified, and which side of a handshake a peer is on.
-/
namespace CredentialRotation

/-- What is verified before a check of one's own may look at the peer. -/
inductive VerificationMode
  | full
  | chainOnly
  | none
  deriving DecidableEq, Repr

namespace VerificationMode

/-- The word for a mode in configurations and messages. -/
def word : VerificationMode → String
  | .full => "full"
  | .chainOnly => "chain_only"
  | .none => "none"

def all : List VerificationMode := [.full, .chainOnly, .none]

/-- The mode of a word. -/
def ofWord? (word : String) : Option VerificationMode :=
  all.find? fun m => m.word = word

def shown : VerificationMode → String
  | .full => "FullVerification"
  | .chainOnly => "ChainOnlyVerification"
  | .none => "NoVerification"

def checksChain (m : VerificationMode) : Bool := m ≠ .none
def checksHostname (m : VerificationMode) : Bool := m = .full

/-- What holds when a configuration does not say. -/
def default : VerificationMode := .full

end VerificationMode

/-- The side of a handshake. -/
inductive Role
  | client
  | server
  deriving DecidableEq, Repr

namespace Role

def word : Role → String
  | .client => "client"
  | .server => "server"

def shown : Role → String
  | .client => "Client"
  | .server => "Server"

def all : List Role := [.client, .server]

end Role
end CredentialRotation
