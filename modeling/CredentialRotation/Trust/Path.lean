import CredentialRotation.Trust.Anchor
import CredentialRotation.Trust.Fitness
import CredentialRotation.Trust.GeneralName

/-!
The search for a path from a certificate through presented intermediates to a trust anchor. Anchors
are tried before intermediates, each in the order given; of all failures the one that got furthest
is reported. Budgets bound the work that presented certificates can cause.
-/
namespace CredentialRotation.Trust

/-- How many steps of each kind a search may still take. -/
structure Budget where
  signatures : Nat
  candidates : Nat
  comparisons : Nat
  deriving DecidableEq, Repr

/-- What a search starts with. -/
def Budget.full : Budget := ⟨100, 200000, 250000⟩

/-- Steps of a search, which spend their budget also when they fail. -/
abbrev Search := ExceptT Failure (StateM Budget)

namespace Search

def spendSignature : Search Unit := do
  match (← get).signatures with
  | 0 => throw .tooManySignatures
  | n + 1 => modify fun b => { b with signatures := n }

def spendCandidate : Search Unit := do
  match (← get).candidates with
  | 0 => throw .tooManyCandidates
  | n + 1 => modify fun b => { b with candidates := n }

def spendComparison : Search Unit := do
  match (← get).comparisons with
  | 0 => throw .tooManyNameComparisons
  | n + 1 => modify fun b => { b with comparisons := n }

/-- A step that spends nothing. -/
def free {α : Type} (x : Except Failure α) : Search α :=
  ExceptT.mk (pure x)

/-- The first success among alternatives. A fatal failure ends the search; otherwise the failure
that got furthest counts, starting from a given one. -/
def firstOf {α β : Type} (failure : Failure) (step : α → Search β) : List α → Search β
  | [] => throw failure
  | a :: rest =>
    tryCatch (step a) fun found =>
      if found.isFatal then throw found else firstOf (failure.further found) step rest

end Search

/-- A path under construction: its topmost certificate and those below it, down to the end
entity. -/
structure Path where
  head : Candidate
  below : List Candidate
  deriving DecidableEq, Repr

namespace Path

def certificates (path : Path) : List Candidate :=
  path.head :: path.below

/-- The authorities below the head, none if the head itself is the end entity. -/
def authoritiesBelow (path : Path) : Option Nat :=
  match path.below with
  | [] => none
  | _ :: rest => some rest.length

/-- Verifies each certificate of a list under the key of the one before it, the first under the
given key. -/
def verifySignatures (keyInfo : Octets) : List Candidate → Search Unit
  | [] => return
  | c :: rest => do
    Search.spendSignature
    Search.free (c.verifySignature keyInfo)
    verifySignatures c.keyInfo rest

/-- Compares a name with the subtrees of a list, and says whether one of the name's kind held it and
whether one did not. -/
def compare (permitted : Bool) (name : GeneralName) (fuel : Nat) (bs : Octets)
    (held missed : Bool) : Search (Bool × Bool) :=
  match fuel with
  | 0 => return (held, missed)
  | fuel + 1 => do
    if bs.isEmpty then return (held, missed)
    Search.spendComparison
    let (subtree, rest) ← Search.free (Parse.expect Der.Strict.sequenceTag bs)
    let base ← Search.free (Parse.all .trailingData GeneralName.read subtree)
    match ← Search.free (name.isWithin? permitted base) with
    | none => compare permitted name fuel rest held missed
    | some true =>
      if !permitted then throw .nameConstraintViolated
      compare permitted name fuel rest true missed
    | some false => compare permitted name fuel rest held true

/-- A name keeps constraints if some permitted subtree of its kind, where there are any, and no
excluded one holds it. -/
def checkConstraints (permitted excluded : Option Octets) (name : GeneralName) :
    Search Unit := do
  if let some bs := permitted then
    let (held, missed) ← compare true name bs.length bs false false
    if missed && !held then throw .nameConstraintViolated
  if let some bs := excluded then
    let _ ← compare false name bs.length bs false false

/-- All names of a certificate keep constraints. The subject itself is a directory name. -/
def checkNames (permitted excluded : Option Octets) (c : Candidate) : Search Unit := do
  let (names, failure) := c.alternativeNames
  names.forM (checkConstraints permitted excluded)
  match failure with
  | some failure => throw failure
  | none => checkConstraints permitted excluded .directory

def subtrees (tag : UInt8) : Parse (Option Octets) := do
  if ← Parse.isNext tag then some <$> Parse.expect tag else return none

/-- The constraints of each issuer hold for all certificates below it; the first are those of the
anchor. -/
def checkAllNames (constraints : Option Octets) : List Candidate → Search Unit
  | [] => return
  | c :: rest => do
    if let some bs := constraints then
      let ((permitted, excluded), left) ← Search.free
        ((do return (← subtrees 0xa0, ← subtrees 0xa1) : Parse _) bs)
      (c :: rest).forM (checkNames permitted excluded)
      if !left.isEmpty then throw .malformed
    checkAllNames (c.extension? .nameConstraints) rest

/-- Ends a path in an anchor. -/
def anchorIn (path : Path) (anchor : Anchor) : Search Anchor := do
  if path.head.issuer ≠ anchor.subject then throw .unknownIssuer
  verifySignatures anchor.keyInfo path.certificates
  checkAllNames anchor.nameConstraints path.certificates
  return anchor

/-- Puts an issuer on top of a path. A certificate that is on the path under the same name and key
does not come again. -/
def extend (path : Path) (der : Octets) : Search Path := do
  let issuer ← Search.free (Candidate.ofDer der)
  if issuer.subject ≠ path.head.issuer then throw .unknownIssuer
  if path.certificates.any fun c => c.keyInfo = issuer.keyInfo && c.subject = issuer.subject then
    throw .unknownIssuer
  Search.spendCandidate
  return ⟨issuer, path.certificates⟩

/-- Completes a path with at most `room` more certificates. -/
def complete (anchors : List Anchor) (intermediates : List Octets) (purpose : Purpose)
    (now : Int) (room : Nat) (path : Path) : Search Anchor := do
  Search.free (path.head.checkFitness now purpose path.authoritiesBelow)
  tryCatch (Search.firstOf .unknownIssuer path.anchorIn anchors) fun failure =>
    if failure.isFatal then throw failure
    else
      match room with
      | 0 => Search.firstOf failure (fun der => do
          let _ ← path.extend der
          throw .pathTooDeep) intermediates
      | room + 1 => Search.firstOf failure (fun der => do
          complete anchors intermediates purpose now room (← path.extend der)) intermediates

end Path

/-- The most certificates between an end entity and an anchor. -/
def maxIntermediates : Nat := 6

/-- Verifies that a path leads from a certificate to an anchor. -/
def verifyPath (anchors : List Anchor) (endEntity : Candidate) (intermediates : List Octets)
    (purpose : Purpose) (now : Int) : Except Failure Unit :=
  let search := Path.complete anchors intermediates purpose now maxIntermediates ⟨endEntity, []⟩
  ((ExceptT.run search).run Budget.full).1.map fun _ => ()

end CredentialRotation.Trust
