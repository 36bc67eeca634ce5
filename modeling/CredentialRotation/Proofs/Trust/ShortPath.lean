import CredentialRotation.Proofs.Credential.Loading
import CredentialRotation.Proofs.Trust.NameFree

/-!
The shortest paths, on which an anchor issued the end entity itself. Under the neutral element of
the curve as a key one signature goes with every message, so that certificates on such a path can be
written down.
-/
namespace CredentialRotation

namespace Ed25519

def neutralOctets : Octets := 1 :: List.replicate 31 0

/-- What the neutral element takes for a signature of every message. -/
def neutralSignature : Octets := neutralOctets ++ List.replicate 32 0

theorem add_neutral : add neutral neutral = neutral := by decide +kernel

theorem times_neutral (n : Nat) : times n neutral = neutral := by
  induction n using Nat.strongRecOn with
  | ind n ih =>
    unfold times
    split
    next => rfl
    next positive =>
      dsimp only
      rw [add_neutral, ih (n / 2) (by omega), add_neutral]
      exact ite_self neutral

theorem verify_neutral (message : Octets) :
    verify neutralOctets message neutralSignature = true := by
  have key : point? neutralOctets = some neutral := by decide +kernel
  have halves : neutralSignature.splitAt 32 = (neutralOctets, List.replicate 32 0) := by decide
  have scalar : littleEndian (List.replicate 32 0) = 0 := by decide
  have nothing : times 0 generator = neutral := by rw [times, if_pos rfl]
  have negated : negate neutral = neutral := by decide
  have encoded : encode neutral = neutralOctets := by decide +kernel
  simp only [verify, halves, key, scalar, nothing, negated, times_neutral, add_neutral, encoded]
  decide

end Ed25519

namespace Trust
open Der.Strict (encode encodeNatural sequenceTag bitStringTag octetStringTag)

/-- The content of the key info structure of the neutral element. -/
def neutralKeyInfo : Octets :=
  encode sequenceTag SignatureScheme.ed25519.keyIdentifier ++
    encode bitStringTag (0 :: Ed25519.neutralOctets)

section Signed
variable {c : Candidate} {anchor : Anchor} {scheme : SignatureScheme} {keyInfo key : Octets}

theorem Candidate.verifySignature_eq_ok
    (algorithm : (SignatureScheme.all.filter fun s => s.identifier = c.algorithm) = [scheme])
    (holds : keyOctets scheme.keyIdentifier keyInfo = .ok key)
    (verifies : scheme.verify key c.signed c.signature = true) :
    c.verifySignature keyInfo = .ok () := by
  have passes : verifyBy scheme keyInfo c.signed c.signature = .ok () := by
    unfold verifyBy
    rw [holds]
    exact if_pos verifies
  unfold verifySignature
  simp only [algorithm, verifyByAny, passes]

theorem Candidate.verifySignature_neutral
    (algorithm : c.algorithm = SignatureScheme.ed25519.identifier)
    (signature : c.signature = Ed25519.neutralSignature) :
    c.verifySignature neutralKeyInfo = .ok () := by
  have only : (SignatureScheme.all.filter fun s =>
      s.identifier = SignatureScheme.ed25519.identifier) = [.ed25519] := by decide +kernel
  have holds : keyOctets SignatureScheme.ed25519.keyIdentifier neutralKeyInfo =
      .ok Ed25519.neutralOctets := eq_ok_of_toOption (by decide +kernel)
  refine verifySignature_eq_ok ?_ holds ?_
  · rw [algorithm, only]
  · rw [signature]
    exact Ed25519.verify_neutral c.signed

/-- A path ends in an anchor that issued its head, and one signature is spent on that. -/
theorem Path.run_anchorIn {budget : Budget} {left : Nat} (spare : budget.signatures = left + 1)
    (issued : c.issuer = anchor.subject) (unbound : anchor.nameConstraints = none)
    (signed : c.verifySignature anchor.keyInfo = .ok ()) :
    (anchorIn ⟨c, []⟩ anchor).run budget = (.ok anchor, { budget with signatures := left }) := by
  obtain ⟨signatures, candidates, comparisons⟩ := budget
  obtain rfl : signatures = left + 1 := spare
  unfold anchorIn
  rw [if_neg (not_not_intro issued)]
  simp only [certificates, verifySignatures, signed, checkAllNames, unbound]
  rfl

/-- No intermediates are needed by an end entity that the first anchor issued. -/
theorem verifyPath_of_issued {anchors : List Anchor} {intermediates : List Octets}
    {purpose : Purpose} {now : Int} (fit : c.checkFitness now purpose none = .ok ())
    (issued : c.issuer = anchor.subject) (unbound : anchor.nameConstraints = none)
    (signed : c.verifySignature anchor.keyInfo = .ok ()) :
    verifyPath (anchor :: anchors) c intermediates purpose now = .ok () := by
  let left : Budget := { Budget.full with signatures := 99 }
  have free : (Search.free (c.checkFitness now purpose none)).run .full = (.ok (), .full) :=
    congrArg (·, Budget.full) fit
  have ends : (Path.anchorIn ⟨c, []⟩ anchor).run .full = (.ok anchor, left) :=
    Path.run_anchorIn rfl issued unbound signed
  have first (failure : Failure) : (Search.firstOf failure (Path.anchorIn ⟨c, []⟩)
      (anchor :: anchors)).run .full = (.ok anchor, left) := by
    rw [Search.firstOf, Search.run_tryCatch, ends]
  have completes : (Path.complete (anchor :: anchors) intermediates purpose now maxIntermediates
      ⟨c, []⟩).run .full = (.ok anchor, left) := by
    unfold Path.complete
    rw [Search.run_bind]
    simp only [Path.authoritiesBelow, free, Search.run_tryCatch, first]
  exact congrArg (fun outcome => outcome.1.map fun _ => ()) completes

end Signed

section Issued

/-- A name that consists of a single word. -/
private def wordName (word : String) : Octets :=
  encode 0x31 (encode sequenceTag (encode 6 [0x55, 4, 3] ++ encode 12 (Octets.ascii word)))

/-- The anchor of the neutral element. -/
def neutralAnchor : Anchor := ⟨wordName "root", neutralKeyInfo, none⟩

/-- A certificate that this anchor issued, with a key and names of its own. -/
def issuedLeaf (keyInfo names : Octets) : Candidate :=
  let algorithm := SignatureScheme.ed25519.identifier
  let validity :=
    encode 23 (Octets.ascii "200101000000Z") ++ encode 23 (Octets.ascii "491231235959Z")
  let extension := encode 6 [0x55, 29, 17] ++ encode octetStringTag (encode sequenceTag names)
  { signed := encode sequenceTag
      (encode 0xa0 (encodeNatural 2) ++ encodeNatural 1 ++ encode sequenceTag algorithm ++
        encode sequenceTag (wordName "root") ++ encode sequenceTag validity ++
        encode sequenceTag (wordName "leaf") ++ encode sequenceTag keyInfo ++
        encode 0xa3 (encode sequenceTag (encode sequenceTag extension)))
    algorithm, validity, keyInfo
    signature := Ed25519.neutralSignature
    issuer := wordName "root"
    subject := wordName "leaf"
    extensions := [(.alternativeNames, names)] }

/-- The octets of this certificate. -/
def issuedLeafDer (keyInfo names : Octets) : Octets :=
  let c := issuedLeaf keyInfo names
  encode sequenceTag
    (c.signed ++ encode sequenceTag c.algorithm ++ encode bitStringTag (0 :: c.signature))

theorem Candidate.checkValidity_congr {c d : Candidate} (same : c.validity = d.validity)
    (now : Int) : c.checkValidity now = d.checkValidity now := by
  unfold checkValidity
  rw [same]

theorem verifyPath_issuedLeaf (keyInfo names : Octets) (intermediates : List Octets)
    (purpose : Purpose) :
    verifyPath [neutralAnchor] (issuedLeaf keyInfo names) intermediates purpose 1800000000 =
      .ok () := by
  have least : (issuedLeaf [] []).checkValidity 1800000000 = .ok () :=
    eq_ok_of_toOption (by decide +kernel)
  have valid : (issuedLeaf keyInfo names).checkValidity 1800000000 = .ok () := by
    have same : (issuedLeaf keyInfo names).validity = (issuedLeaf [] []).validity := rfl
    rw [Candidate.checkValidity_congr same, least]
  have fit : (issuedLeaf keyInfo names).checkFitness 1800000000 purpose none = .ok () := by
    unfold Candidate.checkFitness
    rw [valid]
    rfl
  exact verifyPath_of_issued fit rfl rfl (Candidate.verifySignature_neutral rfl rfl)

end Issued
end Trust

namespace PeerPolicy

theorem verifyPath_eq_ok {anchors : List Trust.Anchor} {presented : Presented}
    {purpose : Trust.Purpose} {now : Int} {leaf : Trust.Candidate}
    (read : Trust.Candidate.ofDer presented.endEntity = .ok leaf)
    (found : Trust.verifyPath anchors leaf presented.intermediates purpose now = .ok ()) :
    verifyPath anchors presented purpose now = .ok leaf := by
  unfold verifyPath
  simp only [read, found, bind, Except.bind]
  rfl

theorem verifyServerChain_eq_ok {anchors : List Trust.Anchor} {presented : Presented}
    {server : ServerName} {now : Int} {leaf : Trust.Candidate}
    (found : verifyPath anchors presented .serverAuthentication now = .ok leaf)
    (named : leaf.verifyName server = .ok ()) :
    verifyServerChain anchors presented server now = .ok () := by
  unfold verifyServerChain
  rw [found]
  exact named

/-- An end entity that the anchor issued is accepted, whatever comes with it. -/
theorem verifyPath_issuedLeaf {keyInfo names : Octets}
    (read : Trust.Candidate.ofDer (Trust.issuedLeafDer keyInfo names) =
      .ok (Trust.issuedLeaf keyInfo names))
    (intermediates : List Octets) (purpose : Trust.Purpose) :
    verifyPath [Trust.neutralAnchor] ⟨Trust.issuedLeafDer keyInfo names, intermediates⟩ purpose
      1800000000 = .ok (Trust.issuedLeaf keyInfo names) :=
  verifyPath_eq_ok read (Trust.verifyPath_issuedLeaf keyInfo names intermediates purpose)

end PeerPolicy
end CredentialRotation
