import CredentialRotation.Proofs.Policy.ClientVerification
import CredentialRotation.Proofs.Policy.ServerVerification

/-!
One policy in its three modes. A mode that verifies less accepts more, and the check has its say in
all of them about the same request.
-/
namespace CredentialRotation
namespace PeerPolicy

/-- The same check and the same supplier in another mode. -/
def inMode (policy : PeerPolicy) (mode : VerificationMode) : PeerPolicy :=
  { policy with mode }

/-- The verdicts of one policy in its modes on one peer. -/
structure OrderedByMode (policy : PeerPolicy) (presented : Presented) (role : Role)
    (serverName : Option String) (verdict : VerificationMode → Verdict) : Prop where
  chainOnly_of_full : (verdict .full).outcome = .ok () → (verdict .chainOnly).outcome = .ok ()
  none_of_chainOnly : (verdict .chainOnly).outcome = .ok () → (verdict .none).outcome = .ok ()
  /-- The check is asked about what was presented, in whatever mode. -/
  shown : ∀ mode request, (verdict mode).asked = some request →
    presented.Shows role serverName request
  same : ∀ mode other request request', (verdict mode).asked = some request →
    (verdict other).asked = some request' → request = request'
  /-- Where more is verified the check is not reached by more peers. -/
  reached : ∀ request, ((verdict .full).asked = some request →
      (verdict .chainOnly).asked = some request) ∧
    ((verdict .chainOnly).asked = some request → (verdict .none).asked = some request)
  /-- Nobody gets around the check. -/
  answered : policy.check ≠ none → ∀ mode, (verdict mode).outcome = .ok () →
    policy.Answers presented role serverName (.ok ())
  rejected : ∀ reason, policy.Answers presented role serverName (.error reason) →
    ∀ mode, (verdict mode).outcome ≠ .ok ()

section Order
variable {policy : PeerPolicy} {presented : Presented} {role : Role} {serverName : Option String}
  {verdict : VerificationMode → Verdict} {holds : VerificationMode → Prop}

/-- If weaker modes let more peers pass the first stage, the whole is ordered. -/
theorem OrderedByMode.of_stages
    (accepts : ∀ mode, (verdict mode).outcome = .ok () ↔ holds mode ∧
      (policy.check = none ∨ policy.Answers presented role serverName (.ok ())))
    (asks : ∀ mode request, (verdict mode).asked = some request ↔ holds mode ∧
      policy.check ≠ none ∧ presented.Shows role serverName request)
    (chainOnly : holds .full → holds .chainOnly) (none : holds .none) :
    OrderedByMode policy presented role serverName verdict where
  chainOnly_of_full accepted := by
    obtain ⟨path, answer⟩ := (accepts .full).1 accepted
    exact (accepts .chainOnly).2 ⟨chainOnly path, answer⟩
  none_of_chainOnly accepted := by
    obtain ⟨-, answer⟩ := (accepts .chainOnly).1 accepted
    exact (accepts .none).2 ⟨none, answer⟩
  shown mode request asked := ((asks mode request).1 asked).2.2
  same mode other request request' asked asked' :=
    ((asks mode request).1 asked).2.2.unique ((asks other request').1 asked').2.2
  reached request := by
    constructor
    · intro asked
      obtain ⟨path, shown⟩ := (asks .full request).1 asked
      exact (asks .chainOnly request).2 ⟨chainOnly path, shown⟩
    · intro asked
      obtain ⟨-, shown⟩ := (asks .chainOnly request).1 asked
      exact (asks .none request).2 ⟨none, shown⟩
  answered checks mode accepted := by
    obtain ⟨-, absent | answers⟩ := (accepts mode).1 accepted
    · exact absurd absent checks
    · exact answers
  rejected reason refuses mode accepted := by
    obtain ⟨-, absent | answers⟩ := (accepts mode).1 accepted
    · obtain ⟨check, request, asks, -⟩ := refuses
      cases absent.symm.trans asks
    · cases answers.unique refuses

end Order

section Modes
variable {policy : PeerPolicy} {fs : FileSystem} {presented : Presented} {server : ServerName}
  {now : Int}

theorem server_ordered_by_mode (policy : PeerPolicy) (fs : FileSystem) (presented : Presented)
    (server : ServerName) (now : Int) :
    OrderedByMode policy presented .server (some server.text) fun mode =>
      (policy.inMode mode).verifyServer fs presented server now := by
  refine .of_stages (fun _ => verifyServer_ok_iff) (fun _ _ => verifyServer_asked_iff) ?_ (.inl rfl)
  rintro (unverified | ⟨anchors, supplies, verified | ⟨forgiving, -⟩⟩)
  · cases unverified
  · exact .inr ⟨anchors, supplies, .inl verified⟩
  · cases forgiving

/-- Both modes that verify chains ask the same of a path. -/
theorem pathHolds_chainOnly_iff {chain : List Trust.Anchor → Except Trust.Failure Unit} :
    (policy.inMode .chainOnly).PathHolds fs chain ↔ (policy.inMode .full).PathHolds fs chain :=
  or_congr (iff_of_false nofun nofun) Iff.rfl

theorem client_ordered_by_mode (policy : PeerPolicy) (fs : FileSystem) (presented : Presented)
    (now : Int) :
    OrderedByMode policy presented .client none fun mode =>
      (policy.inMode mode).verifyClient fs presented now :=
  .of_stages (fun _ => verifyClient_ok_iff) (fun _ _ => verifyClient_asked_iff)
    pathHolds_chainOnly_iff.2 (.inl rfl)

/-- A mode shows in the roots only if there is no supplier. -/
theorem roots_inMode (supplied : policy.bundle ≠ none) (mode : VerificationMode) :
    (policy.inMode mode).roots fs = policy.roots fs := by
  obtain ⟨supplier, asks⟩ := Option.ne_none_iff_exists'.1 supplied
  simp only [roots, inMode, asks]

theorem verifyClient_inMode (supplied : policy.bundle ≠ none) :
    (policy.inMode .full).verifyClient fs presented now =
      (policy.inMode .chainOnly).verifyClient fs presented now := by
  have step (mode : VerificationMode) : (policy.inMode mode).rootsStep fs = policy.rootsStep fs := by
    simp only [rootsStep, roots_inMode supplied mode]
  unfold verifyClient clientStage
  rw [step, step]
  rfl

theorem verifyClient_of_missing (policy : PeerPolicy) (missing : policy.bundle = none)
    (mode : policy.mode ≠ .none) :
    policy.verifyClient fs presented now =
      ⟨.error (CredentialFailure.trustBundle (.missing policy.mode)).toHandshake, none, []⟩ := by
  have checks : policy.mode.checksChain = true := decide_eq_true mode
  have rootless : policy.roots fs = throw (.trustBundle (.missing policy.mode)) := by
    simp only [roots, missing]
  unfold verifyClient clientStage rootsStep
  rw [if_pos checks, rootless]
  rfl

/-- A client has no name, so that nothing is left to tell two of the modes apart. -/
structure Nameless (policy : PeerPolicy) (fs : FileSystem) (presented : Presented) (now : Int) :
    Prop where
  same : policy.bundle ≠ none →
    (policy.inMode .full).verifyClient fs presented now =
      (policy.inMode .chainOnly).verifyClient fs presented now
  /-- Only the complaint that there is no supplier names the mode. -/
  missing : policy.bundle = none → ∀ mode ≠ .none,
    (policy.inMode mode).verifyClient fs presented now =
      ⟨.error (CredentialFailure.trustBundle (.missing mode)).toHandshake, none, []⟩
  accepted : ((policy.inMode .full).verifyClient fs presented now).outcome = .ok () ↔
    ((policy.inMode .chainOnly).verifyClient fs presented now).outcome = .ok ()

theorem nameless (policy : PeerPolicy) (fs : FileSystem) (presented : Presented) (now : Int) :
    policy.Nameless fs presented now where
  same supplied := verifyClient_inMode supplied
  missing missing mode verifies :=
    verifyClient_of_missing (policy.inMode mode) missing verifies
  accepted := by
    rw [verifyClient_ok_iff, verifyClient_ok_iff, pathHolds_chainOnly_iff]
    rfl

/-- Weaker modes accept more, and no mode accepts what the check refuses. -/
theorem weaker_modes_accept_more (policy : PeerPolicy) (fs : FileSystem) (presented : Presented)
    (server : ServerName) (now : Int) :
    (OrderedByMode policy presented .server (some server.text) fun mode =>
      (policy.inMode mode).verifyServer fs presented server now) ∧
    (OrderedByMode policy presented .client none fun mode =>
      (policy.inMode mode).verifyClient fs presented now) ∧
    policy.Nameless fs presented now :=
  ⟨server_ordered_by_mode policy fs presented server now,
    client_ordered_by_mode policy fs presented now, nameless policy fs presented now⟩

end Modes
end PeerPolicy
end CredentialRotation
