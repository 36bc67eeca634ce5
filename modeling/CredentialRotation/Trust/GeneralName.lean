import CredentialRotation.Tls.ServerName
import CredentialRotation.Trust.Candidate

/-!
The names a certificate gives its subject besides the distinguished one, the match of a server's
name with them, and the constraints that an issuer puts on the names below it.
-/
namespace CredentialRotation.Trust

/-- A name; of the kinds that are not looked into only the kind is kept. -/
inductive GeneralName
  | dns (name : Octets)
  | ip (address : Octets)
  | directory
  | other (kind : Nat)
  deriving DecidableEq, Repr

namespace GeneralName

/-- Reads a name by its tag. -/
def read : Parse GeneralName := do
  let (tag, content) ← Parse.element
  match tag.toNat with
  | 0x82 => return .dns content
  | 0x87 => return .ip content
  | 0xa4 => return .directory
  | 0xa0 => return .other 0
  | 0x81 => return .other 1
  | 0xa3 => return .other 3
  | 0xa5 => return .other 5
  | 0x86 => return .other 6
  | 0x88 => return .other 8
  | _ => throw .malformed

/-- The names up to the first that cannot be read, and the failure to read it. -/
def readAll (fuel : Nat) (bs : Octets) : List GeneralName × Option Failure :=
  match fuel with
  | 0 => ([], none)
  | fuel + 1 =>
    if bs.isEmpty then ([], none)
    else
      match read bs with
      | .ok (name, rest) =>
        let (names, failure) := readAll fuel rest
        (name :: names, failure)
      | .error failure => ([], some failure)

end GeneralName

/-- The names a certificate gives its subject in an extension. -/
def Candidate.alternativeNames (c : Candidate) : List GeneralName × Option Failure :=
  match c.extension? .alternativeNames with
  | some bs => GeneralName.readAll bs.length bs
  | none => ([], none)

/-- A name in a certificate stands for the server. -/
def GeneralName.isFor (server : ServerName) : GeneralName → Bool
  | .dns name =>
    match server with
    | .dns reference =>
      DnsName.isPresented name && DnsName.matchesReference name (Octets.ascii reference)
    | .ip _ => false
  | .ip address =>
    match server with
    | .ip reference => address = reference.octets
    | .dns _ => false
  | _ => false

/-- One of a certificate's names stands for the server. A name that cannot be read is only in the
way of the names behind it. -/
def Candidate.verifyName (c : Candidate) (server : ServerName) : Except Failure Unit :=
  let (names, failure) := c.alternativeNames
  if names.any (GeneralName.isFor server) then .ok ()
  else .error (failure.getD .nameMismatch)

/-- A name lies within one subtree, if name and subtree are of one kind. No directory lies within a
permitted subtree, and every directory within an excluded one. -/
def GeneralName.isWithin? (permitted : Bool) :
    GeneralName → GeneralName → Except Failure (Option Bool)
  | .dns name, .dns base =>
    if !DnsName.isPresented name then .error .malformedDnsName
    else if !DnsName.isConstraint base then .error .malformedNameConstraint
    else .ok (some (DnsName.isWithin permitted name base))
  | .directory, .directory => .ok (some (!permitted))
  | .ip address, .ip base =>
    let size := address.length
    if size ≠ 4 ∧ size ≠ 16 then .error .malformed
    else if base.length = 2 * size then
      let (network, mask) := base.splitAt size
      match IpAddress.isWithin? false (address.zip (network.zip mask)) with
      | some inside => .ok (some inside)
      | none => .error .invalidNetworkMask
    else if base.length = 8 ∨ base.length = 32 then .ok (some false)
    else .error .invalidNetworkMask
  | .other kind, .other base => if kind = base then .error .nameConstraintViolated else .ok none
  | _, _ => .ok none

end CredentialRotation.Trust
