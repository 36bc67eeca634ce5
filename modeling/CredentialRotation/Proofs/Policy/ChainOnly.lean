import CredentialRotation.Proofs.Policy.ServerVerification
import CredentialRotation.Proofs.Trust.ShortPath

/-!
What verification without regard to the host name comes to. Every failure to find a path is kept and
a mismatch of names is forgiven, so that names which can be read do not matter. Names that cannot be
read are a failure of another kind, unless a name in front of them stands for the server.
-/
namespace CredentialRotation

namespace Trust

/-- The comparison with a server's name, if a mismatch is forgiven. -/
def Candidate.readNames (c : Candidate) (server : ServerName) : Except Failure Unit :=
  match c.alternativeNames.2 with
  | none => .ok ()
  | some failure =>
    if c.alternativeNames.1.any (GeneralName.isFor server) then .ok () else .error failure

end Trust

namespace PeerPolicy
open Trust (Candidate)

section Tolerance
variable {policy : PeerPolicy} {failure : Trust.Failure}

theorem tolerate_error (other : failure ≠ .nameMismatch) :
    policy.tolerate (.error failure) = .error failure := by
  unfold tolerate
  split
  next same => exact absurd (Except.error.inj same) other
  next => rfl

/-- What is no matter of names is not forgiven. -/
theorem tolerate_bind {α : Type} {x : Except Trust.Failure α} (free : Trust.NameFree x)
    (f : α → Except Trust.Failure Unit) :
    policy.tolerate (x.bind f) = x.bind fun a => policy.tolerate (f a) := by
  cases x with
  | ok a => rfl
  | error failure => exact tolerate_error fun same => free (congrArg Except.error same)

theorem tolerate_verifyName (mode : policy.mode = .chainOnly) (c : Candidate)
    (server : ServerName) : policy.tolerate (c.verifyName server) = c.readNames server := by
  have free := c.nameFree_alternativeNames
  unfold Candidate.verifyName Candidate.readNames
  generalize c.alternativeNames = read at free ⊢
  obtain ⟨names, failure⟩ := read
  cases matched : names.any (Trust.GeneralName.isFor server) with
  | true => cases failure <;> simp [matched, tolerate]
  | false =>
    cases failure with
    | none => simp [matched, tolerate, mode, VerificationMode.checksHostname]
    | some failure =>
      simp only [matched, Bool.false_eq_true, if_false, Option.getD_some]
      exact tolerate_error fun same => free (congrArg some same)

end Tolerance

/-- What looking for a path comes to: roots, and a path from a server's certificate to one of
them. -/
def serverPath (policy : PeerPolicy) (fs : FileSystem) (presented : Presented) (now : Int) :
    Except HandshakeFailure Candidate :=
  ((policy.roots fs).outcome.mapError CredentialFailure.toHandshake).bind fun anchors =>
    (verifyPath anchors presented .serverAuthentication now).mapError .certificate

section ChainOnly
variable {policy : PeerPolicy} {fs : FileSystem} {presented : Presented} {server : ServerName}
  {now : Int}

theorem nameFree_verifyPath (anchors : List Trust.Anchor) (presented : Presented)
    (purpose : Trust.Purpose) (now : Int) :
    Trust.NameFree (verifyPath anchors presented purpose now) := by
  refine .bind (Candidate.nameFree_ofDer presented.endEntity) fun c => ?_
  exact .bind (Trust.nameFree_verifyPath anchors c presented.intermediates purpose now) fun _ =>
    .ok c

theorem serverPath_eq_ok {anchors : List Trust.Anchor} {leaf : Candidate}
    (supplied : (policy.roots fs).outcome = .ok anchors)
    (found : verifyPath anchors presented .serverAuthentication now = .ok leaf) :
    policy.serverPath fs presented now = .ok leaf := by
  unfold serverPath
  rw [supplied]
  exact congrArg (Except.mapError HandshakeFailure.certificate) found

theorem serverChain_chainOnly (mode : policy.mode = .chainOnly) (anchors : List Trust.Anchor) :
    policy.serverChain presented server now anchors =
      (verifyPath anchors presented .serverAuthentication now).bind (·.readNames server) := by
  simp only [← tolerate_verifyName mode]
  exact tolerate_bind (nameFree_verifyPath anchors presented .serverAuthentication now) _

/-- Apart from names that cannot be read, only the path matters. -/
theorem verifyServer_chainOnly (mode : policy.mode = .chainOnly) (absent : policy.check = none) :
    (policy.verifyServer fs presented server now).outcome =
      (policy.serverPath fs presented now).bind fun leaf =>
        (leaf.readNames server).mapError .certificate := by
  have verifies : policy.mode ≠ .none := fun none => nomatch mode.symm.trans none
  have passes : (policy.checkPeer presented .server (some server.text)).outcome = .ok () :=
    (checked_checkPeer ..).ok_iff.2 (.inl absent)
  have stage := (staged_serverStage policy fs presented server now).of_mode verifies
  calc (policy.verifyServer fs presented server now).outcome
    _ = (Verification.outcome (policy.serverStage fs presented server now)).bind fun _ =>
          .ok () := by rw [verifyServer, andThen_outcome, passes]
    _ = Verification.outcome (policy.serverStage fs presented server now) := by
        cases Verification.outcome (policy.serverStage fs presented server now) <;> rfl
    _ = ((policy.roots fs).outcome.mapError CredentialFailure.toHandshake).bind fun anchors =>
          ((verifyPath anchors presented .serverAuthentication now).bind
            (·.readNames server)).mapError .certificate := by
        simp only [stage, serverChain_chainOnly mode]
    _ = (policy.serverPath fs presented now).bind fun leaf =>
          (leaf.readNames server).mapError .certificate := by
        simp only [mapError_bind, serverPath]
        cases (policy.roots fs).outcome <;> rfl

section Path
variable (mode : policy.mode = .chainOnly) (absent : policy.check = none)
include mode absent

theorem verifyServer_of_no_path {failure : HandshakeFailure}
    (fails : policy.serverPath fs presented now = .error failure) :
    (policy.verifyServer fs presented server now).outcome = .error failure := by
  rw [verifyServer_chainOnly mode absent, fails]
  rfl

theorem verifyServer_of_path {leaf : Candidate}
    (found : policy.serverPath fs presented now = .ok leaf)
    (read : leaf.alternativeNames.2 = none) :
    (policy.verifyServer fs presented server now).outcome = .ok () := by
  rw [verifyServer_chainOnly mode absent, found]
  simp only [Except.bind, Candidate.readNames, read]
  rfl

theorem verifyServer_of_unread {leaf : Candidate} {failure : Trust.Failure}
    (found : policy.serverPath fs presented now = .ok leaf)
    (unread : leaf.alternativeNames.2 = some failure) :
    (policy.verifyServer fs presented server now).outcome =
      if leaf.alternativeNames.1.any (Trust.GeneralName.isFor server) then .ok ()
      else .error (.certificate failure) := by
  rw [verifyServer_chainOnly mode absent, found]
  simp only [Except.bind, Candidate.readNames, unread]
  split <;> rfl

end Path

/-- How servers are decided on by their path. -/
structure DecidesByPath (policy : PeerPolicy) (fs : FileSystem) (presented : Presented)
    (now : Int) : Prop where
  refused : ∀ failure, policy.serverPath fs presented now = .error failure → ∀ server,
    (policy.verifyServer fs presented server now).outcome = .error failure
  accepted : ∀ leaf, policy.serverPath fs presented now = .ok leaf →
    leaf.alternativeNames.2 = none → ∀ server,
      (policy.verifyServer fs presented server now).outcome = .ok ()
  /-- A path is no help to a server whose name does not stand in front of an unreadable one. -/
  unread : ∀ leaf failure, policy.serverPath fs presented now = .ok leaf →
    leaf.alternativeNames.2 = some failure → failure ≠ .nameMismatch ∧ ∀ server,
      (policy.verifyServer fs presented server now).outcome =
        if leaf.alternativeNames.1.any (Trust.GeneralName.isFor server) then .ok ()
        else .error (.certificate failure)
  /-- Nothing else tells two servers apart. -/
  alike : ∀ server other,
    (policy.verifyServer fs presented server now).outcome =
        (policy.verifyServer fs presented other now).outcome ↔
      ∀ leaf, policy.serverPath fs presented now = .ok leaf → leaf.alternativeNames.2 ≠ none →
        leaf.alternativeNames.1.any (Trust.GeneralName.isFor server) =
          leaf.alternativeNames.1.any (Trust.GeneralName.isFor other)

/-- Without a check and without regard to the host name the path decides, and no server is told from
another unless there are names that cannot be read. -/
theorem chain_only_decides_by_path (bundle : Option BundleSupplier) (fs : FileSystem)
    (presented : Presented) (now : Int) :
    DecidesByPath ⟨.chainOnly, none, bundle⟩ fs presented now where
  refused failure fails server := verifyServer_of_no_path rfl rfl fails
  accepted leaf found read server := verifyServer_of_path rfl rfl found read
  unread leaf failure found unread := by
    refine ⟨fun same => ?_, fun server => verifyServer_of_unread rfl rfl found unread⟩
    exact leaf.nameFree_alternativeNames (same ▸ unread)
  alike server other := by
    cases path : serverPath ⟨.chainOnly, none, bundle⟩ fs presented now with
    | error failure =>
      rw [verifyServer_of_no_path rfl rfl path, verifyServer_of_no_path rfl rfl path]
      exact iff_of_true rfl nofun
    | ok leaf =>
      simp only [Except.ok.injEq, forall_eq']
      cases names : leaf.alternativeNames.2 with
      | none =>
        rw [verifyServer_of_path rfl rfl path names, verifyServer_of_path rfl rfl path names]
        exact iff_of_true rfl nofun
      | some failure =>
        rw [verifyServer_of_unread rfl rfl path names, verifyServer_of_unread rfl rfl path names]
        cases leaf.alternativeNames.1.any (Trust.GeneralName.isFor server) <;>
          cases leaf.alternativeNames.1.any (Trust.GeneralName.isFor other) <;> simp

/-- A name, and one of a kind that does not exist behind it. -/
def oddNames : Octets :=
  Der.Strict.encode 0x82 (Octets.ascii "a.example") ++ Der.Strict.encode 0x89 []

/-- A leaf with a path is accepted for the name in front of one that cannot be read, and refused for
another name. -/
theorem chain_only_may_ask_for_the_name :
    ∃ (policy : PeerPolicy) (fs : FileSystem) (presented : Presented) (now : Int)
      (leaf : Candidate), policy.mode = .chainOnly ∧ policy.check = none ∧
      policy.serverPath fs presented now = .ok leaf ∧
      (policy.verifyServer fs presented (.dns "a.example") now).outcome = .ok () ∧
      (policy.verifyServer fs presented (.dns "b.example") now).outcome =
        .error (.certificate .malformed) := by
  let policy : PeerPolicy := ⟨.chainOnly, none, some fun _ => pure [Trust.neutralAnchor]⟩
  let fs : FileSystem := ⟨fun _ => .error .notFound, fun _ => .error .notFound⟩
  let leaf := Trust.issuedLeaf Trust.neutralKeyInfo oddNames
  let presented : Presented := ⟨Trust.issuedLeafDer Trust.neutralKeyInfo oddNames, []⟩
  have read : Candidate.ofDer presented.endEntity = .ok leaf :=
    eq_ok_of_toOption (by decide +kernel)
  have path : policy.serverPath fs presented 1800000000 = .ok leaf :=
    serverPath_eq_ok rfl (verifyPath_issuedLeaf read [] .serverAuthentication)
  have names : leaf.alternativeNames = ([.dns (Octets.ascii "a.example")], some .malformed) := by
    decide +kernel
  have unread : leaf.alternativeNames.2 = some .malformed := congrArg Prod.snd names
  refine ⟨policy, fs, presented, 1800000000, leaf, rfl, rfl, path, ?_, ?_⟩
  · rw [verifyServer_of_unread rfl rfl path unread, names]
    exact if_pos (by decide +kernel)
  · rw [verifyServer_of_unread rfl rfl path unread, names]
    exact if_neg (by decide +kernel)

end ChainOnly
end PeerPolicy
end CredentialRotation
