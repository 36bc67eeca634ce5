import CredentialRotation.Calendar
import CredentialRotation.Trust.Candidate

/-!
What a certificate has to fulfil for its place in a path, whoever issued it: it is valid at the
time, an authority exactly if others stand below it, and meant for the purpose.
-/
namespace CredentialRotation.Trust

/-- What a path is checked for. -/
inductive Purpose
  | serverAuthentication
  | clientAuthentication
  deriving DecidableEq, Repr

/-- The content octets of a purpose's identifier. -/
def Purpose.identifier : Purpose → Octets
  | .serverAuthentication => (Oid.ofArcs [1, 3, 6, 1, 5, 5, 7, 3, 1]).content
  | .clientAuthentication => (Oid.ofArcs [1, 3, 6, 1, 5, 5, 7, 3, 2]).content

namespace Candidate

open Parse

def twoDigits (least most : Nat) : Parse Nat := do
  match ← get with
  | a :: b :: rest =>
    let hi := a.toNat - 48
    let lo := b.toNat - 48
    let n := hi * 10 + lo
    if a.toNat < 48 ∨ b.toNat < 48 ∨ hi > 9 ∨ lo > 9 ∨ n < least ∨ most < n then
      throw .malformedTime
    set rest
    return n
  | _ => throw .malformedTime

/-- Seconds from the start of 1970 to a moment, in either of the two written forms. Both show
seconds and end in a Z, and no year before 1970 will do. -/
def moment : Parse Int := do
  let isShort ← isNext 23
  nested (if isShort then 23 else 24) .trailingData do
    let high ← if isShort then pure none else some <$> twoDigits 0 99
    let low ← twoDigits 0 99
    let year := high.getD (if low ≥ 50 then 19 else 20) * 100 + low
    let month ← twoDigits 1 12
    let day ← twoDigits 1 (CalendarTime.daysInMonth year month)
    let hour ← twoDigits 0 23
    let minute ← twoDigits 0 59
    let second ← twoDigits 0 59
    match ← get with
    | 90 :: rest => set rest
    | _ => throw .malformedTime
    if year < 1970 then throw .malformedTime
    return CalendarTime.epochSeconds { year, month, day, hour, minute, second }

/-- The time lies within the validity, both ends included. -/
def checkValidity (c : Candidate) (now : Int) : Except Failure Unit :=
  all .malformed (do
    let start ← moment
    let stop ← moment
    if stop < start then throw .invalidValidity
    if now < start then throw .notYetValid
    if stop < now then throw .expired) c.validity

/-- The end entity is no authority, and all others are, with no more authorities below them than they
allow. -/
def checkPlace (authoritiesBelow : Option Nat) (isAuthority : Bool) (limit : Option Nat) :
    Except Failure Unit :=
  match authoritiesBelow with
  | none => if isAuthority then throw .authorityAsEndEntity else return
  | some below =>
    if !isAuthority then throw .endEntityAsAuthority
    else if limit.any fun limit => limit < below then throw .pathLengthExceeded
    else return

/-- Whether a certificate is an authority, and how many authorities it allows below it, is said in
an extension; without it, it is none. -/
def checkAuthority (c : Candidate) (authoritiesBelow : Option Nat) : Except Failure Unit :=
  match c.extension? .basicConstraints with
  | none => checkPlace authoritiesBelow false none
  | some bs =>
    all .malformed (do
      let isAuthority ← flag
      let limit ← if (← get).isEmpty then pure none else some <$> small
      MonadLift.monadLift (checkPlace authoritiesBelow isAuthority limit)) bs

/-- Looks for a purpose among identifiers. What follows the first match is not read. -/
def findPurpose (purpose : Purpose) (fuel : Nat) (bs : Octets) : Except Failure Unit :=
  match fuel with
  | 0 => throw .malformed
  | fuel + 1 => do
    let (id, rest) ← expect 6 bs
    if id = purpose.identifier then return
    if rest.isEmpty then throw .requiredPurposeMissing
    findPurpose purpose fuel rest

/-- A certificate that lists no purposes serves all. -/
def checkPurpose (c : Candidate) (purpose : Purpose) : Except Failure Unit :=
  match c.extension? .purposes with
  | none => return
  | some [] => throw .emptyPurposes
  | some bs => findPurpose purpose bs.length bs

/-- All checks that do not depend on the issuer. -/
def checkFitness (c : Candidate) (now : Int) (purpose : Purpose)
    (authoritiesBelow : Option Nat) : Except Failure Unit := do
  c.checkValidity now
  c.checkAuthority authoritiesBelow
  c.checkPurpose purpose

end Candidate
end CredentialRotation.Trust
