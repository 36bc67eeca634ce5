import CredentialRotation.Proofs.Policy.ClientVerification
import CredentialRotation.Proofs.Trust.ShortPath

/-!
What validating a policy at the start says about later handshakes. As long as the supplier does not
change its mind, roots that were there are there again, and a failure to get them is the failure of
every handshake.
-/
namespace CredentialRotation
namespace PeerPolicy

/-- The supplier answers to some files as it does to others. -/
def AnswersAlike (policy : PeerPolicy) (fs later : FileSystem) : Prop :=
  ∀ supplier, policy.bundle = some supplier → (supplier later).outcome = (supplier fs).outcome

section Validation
variable {policy : PeerPolicy} {fs later : FileSystem} {presented : Presented} {now : Int}

theorem validateServer_of_none (mode : policy.mode = .none) :
    policy.validateServer fs = pure () := by
  simp [validateServer, mode, VerificationMode.checksChain]

/-- Validation comes to nothing but the question whether there are roots. -/
theorem validateServer_outcome (mode : policy.mode ≠ .none) :
    (policy.validateServer fs).outcome = (policy.roots fs).outcome.map fun _ => () := by
  have checks : policy.mode.checksChain = true := decide_eq_true mode
  rw [validateServer, if_pos checks, Attempt.outcome_bind]
  cases (policy.roots fs).outcome <;> rfl

theorem AnswersAlike.roots_outcome (alike : policy.AnswersAlike fs later) :
    (policy.roots later).outcome = (policy.roots fs).outcome := by
  unfold roots
  cases asks : policy.bundle with
  | none => rfl
  | some supplier => simp only [Attempt.outcome_bind, alike supplier asks]

theorem Rootless.of_alike {failure : CredentialFailure} (rootless : policy.Rootless fs failure)
    (alike : policy.AnswersAlike fs later) : policy.Rootless later failure := by
  cases rootless with
  | missing absent => exact .missing absent
  | failing asks fails => exact .failing asks ((alike _ asks).trans fails)
  | empty asks none => exact .empty asks ((alike _ asks).trans none)

theorem roots_of_validateServer (validates : (policy.validateServer fs).outcome = .ok ())
    (mode : policy.mode ≠ .none) :
    ∃ anchors, (policy.roots fs).outcome = .ok anchors ∧ policy.Supplies fs anchors := by
  rw [validateServer_outcome mode] at validates
  rcases supplies_or_rootless policy fs with found | ⟨failure, found, -⟩
  · exact found
  · rw [found] at validates
    cases validates

theorem rootless_of_validateServer {failure : CredentialFailure}
    (fails : (policy.validateServer fs).outcome = .error failure) :
    policy.mode ≠ .none ∧ policy.Rootless fs failure := by
  have mode : policy.mode ≠ .none := by
    intro mode
    rw [validateServer_of_none mode] at fails
    cases fails
  rw [validateServer_outcome mode] at fails
  rcases supplies_or_rootless policy fs with ⟨anchors, found, -⟩ | ⟨failure', found, rootless⟩
  · rw [found] at fails
    cases fails
  · rw [found] at fails
    obtain rfl := Except.error.inj fails
    exact ⟨mode, rootless⟩

/-- How a validation and the handshakes after it go together. -/
structure Foretells (policy : PeerPolicy) (fs later : FileSystem) : Prop where
  /-- Under the roots that were found a chain is verified, and then there is only the check. -/
  valid : (policy.validateServer fs).outcome = .ok () → policy.mode ≠ .none →
    ∃ anchors, policy.Supplies fs anchors ∧ ∀ presented now,
      (policy.verifyClient later presented now).outcome =
        ((verifyPath anchors presented .clientAuthentication now).mapError .certificate).bind
          fun _ => (policy.checkPeer presented .client none).outcome
  /-- So no failure has to do with the supplier. -/
  faultless : (policy.validateServer fs).outcome = .ok () → ∀ presented now failure,
    (policy.verifyClient later presented now).outcome = .error failure →
      (∃ cause, failure = .certificate cause) ∨
        ∃ reason, failure = .peerRejected reason ∧
          policy.Answers presented .client none (.error reason)
  invalid : ∀ failure, (policy.validateServer fs).outcome = .error failure → ∀ presented now,
    (policy.verifyClient later presented now).outcome = .error failure.toHandshake ∧
      (policy.verifyClient later presented now).asked = none
  /-- Without verification no supplier matters, neither a missing nor a failing one. -/
  unverified : policy.mode = .none → ∀ (bundle : Option BundleSupplier) (others : FileSystem),
    ({ policy with bundle } : PeerPolicy).validateServer others = pure () ∧
      ∀ presented now, ({ policy with bundle } : PeerPolicy).verifyClient others presented now =
        policy.checkPeer presented .client none

theorem verifyClient_of_valid (alike : policy.AnswersAlike fs later)
    (validates : (policy.validateServer fs).outcome = .ok ()) (mode : policy.mode ≠ .none) :
    ∃ anchors, policy.Supplies fs anchors ∧ ∀ presented now,
      (policy.verifyClient later presented now).outcome =
        ((verifyPath anchors presented .clientAuthentication now).mapError .certificate).bind
          fun _ => (policy.checkPeer presented .client none).outcome := by
  obtain ⟨anchors, found, supplies⟩ := roots_of_validateServer validates mode
  refine ⟨anchors, supplies, fun presented now => ?_⟩
  rw [verifyClient_outcome mode, alike.roots_outcome, found]
  rfl

/-- Validation and handshakes agree as long as the supplier answers alike: what was valid stays
valid, and what was not fails every handshake for the same reason. -/
theorem boot_validation_foretells_handshakes (alike : policy.AnswersAlike fs later) :
    policy.Foretells fs later where
  valid := verifyClient_of_valid alike
  faultless validates presented now failure fails := by
    have checked := checked_checkPeer policy presented .client none
    by_cases mode : policy.mode = .none
    · rw [verifyClient_of_none mode] at fails
      exact (checked.failure_cases fails).imp_left fun same => ⟨_, same⟩
    · obtain ⟨anchors, -, outcome⟩ := verifyClient_of_valid alike validates mode
      rw [outcome] at fails
      cases path : verifyPath anchors presented .clientAuthentication now with
      | error cause =>
        rw [path] at fails
        exact .inl ⟨cause, (Except.error.inj fails).symm⟩
      | ok leaf =>
        rw [path] at fails
        exact (checked.failure_cases fails).imp_left fun same => ⟨_, same⟩
  invalid failure fails presented now := by
    obtain ⟨mode, rootless⟩ := rootless_of_validateServer fails
    exact verifyClient_of_rootless mode (rootless.of_alike alike)
  unverified mode bundle others :=
    ⟨validateServer_of_none mode, fun presented now => verifyClient_of_none mode⟩

/-- A client that one of the roots issued is accepted after validation, and after the supplier has
failed once it is refused without being looked at. -/
theorem boot_validation_foretells_handshakes_issued :
    ∃ (valid invalid : PeerPolicy) (fs later : FileSystem) (presented : Presented)
      (failure : CredentialFailure),
      valid.mode = .full ∧ valid.AnswersAlike fs later ∧ valid.Foretells fs later ∧
      (valid.validateServer fs).outcome = .ok () ∧
      (valid.verifyClient later presented 1800000000).outcome = .ok () ∧
      invalid.AnswersAlike fs later ∧
      (invalid.validateServer fs).outcome = .error failure ∧
      (invalid.verifyClient later presented 1800000000).outcome = .error failure.toHandshake := by
  let valid : PeerPolicy := ⟨.full, none, some fun _ => pure [Trust.neutralAnchor]⟩
  let invalid : PeerPolicy := ⟨.full, none, some (.ofFile "roots.pem")⟩
  let fs : FileSystem := ⟨fun _ => .error .notFound, fun _ => .error .notFound⟩
  let later : FileSystem := ⟨fun _ => .ok ⟨1, 0⟩, fun _ => .error .notFound⟩
  let presented : Presented := ⟨Trust.issuedLeafDer Trust.neutralKeyInfo [], []⟩
  have alike : valid.AnswersAlike fs later := by
    rintro supplier ⟨⟩
    rfl
  have alike' : invalid.AnswersAlike fs later := by
    rintro supplier ⟨⟩
    rfl
  have foretells := boot_validation_foretells_handshakes alike
  have foretells' := boot_validation_foretells_handshakes alike'
  have read : Trust.Candidate.ofDer presented.endEntity =
      .ok (Trust.issuedLeaf Trust.neutralKeyInfo []) := eq_ok_of_toOption (by decide +kernel)
  have accepted : (valid.verifyClient later presented 1800000000).outcome = .ok () := by
    obtain ⟨anchors, supplies, outcome⟩ := foretells.valid rfl nofun
    obtain rfl : anchors = [Trust.neutralAnchor] :=
      supplies.unique ⟨⟨_, rfl, rfl⟩, List.cons_ne_nil _ _⟩
    rw [outcome, verifyPath_issuedLeaf read]
    rfl
  exact ⟨valid, invalid, fs, later, presented, .io "roots.pem" .notFound, rfl, alike, foretells,
    rfl, accepted, alike', rfl, (foretells'.invalid _ rfl presented _).1⟩

end Validation
end PeerPolicy
end CredentialRotation
