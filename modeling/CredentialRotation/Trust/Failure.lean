/-!
Why no certification path could be accepted. Of several failures the one that got furthest is
reported, which a rank decides.
-/
namespace CredentialRotation.Trust

inductive Failure
  | malformed
  | malformedTime
  | trailingData
  | expired
  | notYetValid
  | invalidValidity
  | unknownIssuer
  | nameMismatch
  | badSignature
  | signatureAlgorithmMismatch
  | unsupportedSignatureAlgorithm
  | unsupportedSignatureAlgorithmForKey
  | requiredPurposeMissing
  | emptyPurposes
  | authorityAsEndEntity
  | endEntityAsAuthority
  | pathLengthExceeded
  | nameConstraintViolated
  | unsupportedVersion
  | unsupportedCriticalExtension
  | unsupportedNameType
  | invalidExtensionValue
  | invalidNetworkMask
  | invalidSerialNumber
  | malformedExtensions
  | malformedDnsName
  | malformedNameConstraint
  | pathTooDeep
  | tooManySignatures
  | tooManyCandidates
  | tooManyNameComparisons
  deriving DecidableEq, Repr

namespace Failure

/-- The larger the rank, the nearer the path came to being accepted. -/
def rank : Failure → Nat
  | .notYetValid | .expired => 290
  | .nameMismatch => 280
  | .badSignature => 260
  | .signatureAlgorithmMismatch => 250
  | .requiredPurposeMissing | .emptyPurposes => 240
  | .nameConstraintViolated => 230
  | .pathLengthExceeded => 220
  | .authorityAsEndEntity | .endEntityAsAuthority => 210
  | .invalidValidity => 190
  | .invalidNetworkMask => 180
  | .invalidSerialNumber => 170
  | .unsupportedSignatureAlgorithmForKey => 150
  | .unsupportedSignatureAlgorithm => 140
  | .unsupportedCriticalExtension | .unsupportedVersion => 130
  | .unsupportedNameType => 95
  | .pathTooDeep => 61
  | .malformedDnsName => 60
  | .malformedNameConstraint => 50
  | .malformedExtensions | .trailingData => 40
  | .invalidExtensionValue => 30
  | .malformedTime => 20
  | .malformed => 10
  | .unknownIssuer | .tooManySignatures | .tooManyCandidates | .tooManyNameComparisons => 0

/-- A spent budget ends the search for a path at once. -/
def isFatal : Failure → Bool
  | .tooManySignatures | .tooManyCandidates | .tooManyNameComparisons => true
  | _ => false

/-- The failure to report of two; the later one only if it got further. -/
def further (first second : Failure) : Failure :=
  if second.rank > first.rank then second else first

end Failure
end CredentialRotation.Trust
