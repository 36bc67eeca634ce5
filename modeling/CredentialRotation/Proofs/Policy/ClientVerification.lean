import CredentialRotation.Proofs.Policy.Stages

/-!
When a client is accepted: its path holds as far as the mode asks for that, and the check, if there
is one, accepts what was presented. There is no name to look at.
-/
namespace CredentialRotation
namespace PeerPolicy
variable {policy : PeerPolicy} {fs : FileSystem} {presented : Presented} {now : Int}

/-- The verification of a client's chain. -/
def clientChain (presented : Presented) (now : Int) (anchors : List Trust.Anchor) :
    Except Trust.Failure Unit :=
  (verifyPath anchors presented .clientAuthentication now).map fun _ => ()

theorem clientStage_of_none (mode : policy.mode = .none) :
    policy.clientStage fs presented now = pure () := by
  simp [clientStage, mode, VerificationMode.checksChain]

theorem staged_clientStage (policy : PeerPolicy) (fs : FileSystem) (presented : Presented)
    (now : Int) : Staged policy fs (clientChain presented now)
      (Verification.outcome (policy.clientStage fs presented now)) := by
  by_cases mode : policy.mode = .none
  · rw [clientStage_of_none mode]
    exact .unverified mode
  · have checks : policy.mode.checksChain = true := decide_eq_true mode
    rw [clientStage, if_pos checks]
    refine staged_of_checks mode _ fun anchors => ?_
    unfold clientChain
    cases verifyPath anchors presented .clientAuthentication now <;> rfl

theorem verifyClient_ok_iff : (policy.verifyClient fs presented now).outcome = .ok () ↔
    policy.PathHolds fs (clientChain presented now) ∧
      (policy.check = none ∨ policy.Answers presented .client none (.ok ())) :=
  andThen_ok_iff (staged_clientStage policy fs presented now)

theorem verifyClient_asked_iff {request : PeerRequest} :
    (policy.verifyClient fs presented now).asked = some request ↔
      policy.PathHolds fs (clientChain presented now) ∧ policy.check ≠ none ∧
        presented.Shows .client none request :=
  andThen_asked_iff (staged_clientStage policy fs presented now)

/-- Without verification there is only the check. -/
theorem verifyClient_of_none (mode : policy.mode = .none) :
    policy.verifyClient fs presented now = policy.checkPeer presented .client none := by
  unfold verifyClient
  rw [clientStage_of_none mode]
  rfl

theorem verifyClient_of_rootless {failure : CredentialFailure} (mode : policy.mode ≠ .none)
    (rootless : policy.Rootless fs failure) :
    (policy.verifyClient fs presented now).outcome = .error failure.toHandshake ∧
      (policy.verifyClient fs presented now).asked = none :=
  andThen_of_rootless (staged_clientStage policy fs presented now) mode rootless _

/-- With verification roots come first, then the chain under them, then the check. -/
theorem verifyClient_outcome (mode : policy.mode ≠ .none) :
    (policy.verifyClient fs presented now).outcome =
      ((policy.roots fs).outcome.mapError CredentialFailure.toHandshake).bind fun anchors =>
        ((verifyPath anchors presented .clientAuthentication now).mapError .certificate).bind
          fun _ => (policy.checkPeer presented .client none).outcome := by
  rw [verifyClient, andThen_outcome, (staged_clientStage policy fs presented now).of_mode mode]
  cases (policy.roots fs).outcome with
  | error failure => rfl
  | ok anchors =>
    change (((verifyPath anchors presented .clientAuthentication now).map _).mapError _).bind _ =
      ((verifyPath anchors presented .clientAuthentication now).mapError _).bind _
    cases verifyPath anchors presented .clientAuthentication now <;> rfl

end PeerPolicy
end CredentialRotation
