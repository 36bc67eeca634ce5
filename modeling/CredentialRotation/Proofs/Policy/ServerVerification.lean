import CredentialRotation.Proofs.Policy.Stages

/-!
When a server is accepted: its path holds as far as the mode asks for that, under roots that were
supplied just then, and the check, if there is one, accepts what was presented.
-/
namespace CredentialRotation
namespace PeerPolicy

section Stage
variable {policy : PeerPolicy} {fs : FileSystem} {presented : Presented} {server : ServerName}
  {now : Int}

/-- What a mode puts up with when a chain is verified. -/
def Tolerates (policy : PeerPolicy) (verified : Except Trust.Failure Unit) : Prop :=
  verified = .ok () ∨ policy.mode = .chainOnly ∧ verified = .error .nameMismatch

/-- The first stage as it should be: nothing is asked for without verification, and otherwise roots
and a chain that holds under them. -/
def ServerPathHolds (policy : PeerPolicy) (fs : FileSystem) (presented : Presented)
    (server : ServerName) (now : Int) : Prop :=
  policy.mode = .none ∨ ∃ anchors, policy.Supplies fs anchors ∧
    policy.Tolerates (verifyServerChain anchors presented server now)

/-- What a mode leaves of the verification of a server's chain. -/
def tolerate (policy : PeerPolicy) (verified : Except Trust.Failure Unit) :
    Except Trust.Failure Unit :=
  match verified with
  | .error .nameMismatch =>
    if policy.mode.checksHostname then .error .nameMismatch else .ok ()
  | _ => verified

/-- The verification of a server's chain as the mode has it. -/
def serverChain (policy : PeerPolicy) (presented : Presented) (server : ServerName) (now : Int)
    (anchors : List Trust.Anchor) : Except Trust.Failure Unit :=
  policy.tolerate (verifyServerChain anchors presented server now)

theorem tolerate_eq_ok_iff (mode : policy.mode ≠ .none) {verified : Except Trust.Failure Unit} :
    policy.tolerate verified = .ok () ↔ policy.Tolerates verified := by
  unfold tolerate Tolerates
  split
  next =>
    -- Only the two modes that check chains are left.
    cases which : policy.mode with
    | none => exact absurd which mode
    | chainOnly => simp [VerificationMode.checksHostname]
    | full => simp [VerificationMode.checksHostname]
  next other =>
    refine ⟨.inl, ?_⟩
    rintro (passes | ⟨-, mismatch⟩)
    · exact passes
    · exact absurd mismatch other

theorem serverPathHolds_iff : policy.PathHolds fs (policy.serverChain presented server now) ↔
    policy.ServerPathHolds fs presented server now := by
  by_cases mode : policy.mode = .none
  · exact iff_of_true (.inl mode) (.inl mode)
  · simp only [PathHolds, ServerPathHolds, serverChain, tolerate_eq_ok_iff mode]

theorem serverStage_of_none (mode : policy.mode = .none) :
    policy.serverStage fs presented server now = pure () := by
  simp [serverStage, mode, VerificationMode.checksChain]

theorem staged_serverStage (policy : PeerPolicy) (fs : FileSystem) (presented : Presented)
    (server : ServerName) (now : Int) : Staged policy fs (policy.serverChain presented server now)
      (Verification.outcome (policy.serverStage fs presented server now)) := by
  by_cases mode : policy.mode = .none
  · rw [serverStage_of_none mode]
    exact .unverified mode
  · have checks : policy.mode.checksChain = true := decide_eq_true mode
    rw [serverStage, if_pos checks]
    refine staged_of_checks mode _ fun anchors => ?_
    unfold serverChain tolerate
    split
    next verified =>
      rw [verified]
      rfl
    next verified =>
      rw [verified]
      cases policy.mode.checksHostname <;> rfl
    next failure other verified =>
      rw [verified]
      cases failure <;> first | rfl | exact absurd rfl other

end Stage

section Server
variable {policy : PeerPolicy} {fs : FileSystem} {presented : Presented} {server : ServerName}
  {now : Int}

/-- The two ways of a verification: the check decides, or the first stage has failed. -/
theorem verifyServer_cases (policy : PeerPolicy) (fs : FileSystem) (presented : Presented)
    (server : ServerName) (now : Int) :
    policy.ServerPathHolds fs presented server now ∧
      (policy.verifyServer fs presented server now).outcome =
        (policy.checkPeer presented .server (some server.text)).outcome ∧
      (policy.verifyServer fs presented server now).asked =
        (policy.checkPeer presented .server (some server.text)).asked ∨
    ¬ policy.ServerPathHolds fs presented server now ∧
      (policy.verifyServer fs presented server now).asked = none ∧
      ∃ failure, (policy.verifyServer fs presented server now).outcome = .error failure ∧
        Staged policy fs (policy.serverChain presented server now) (.error failure) := by
  rw [← serverPathHolds_iff]
  exact andThen_cases (staged_serverStage policy fs presented server now) _

theorem verifyServer_ok_iff : (policy.verifyServer fs presented server now).outcome = .ok () ↔
    policy.ServerPathHolds fs presented server now ∧
      (policy.check = none ∨ policy.Answers presented .server (some server.text) (.ok ())) := by
  rw [← serverPathHolds_iff]
  exact andThen_ok_iff (staged_serverStage policy fs presented server now)

theorem verifyServer_asked_iff {request : PeerRequest} :
    (policy.verifyServer fs presented server now).asked = some request ↔
      policy.ServerPathHolds fs presented server now ∧ policy.check ≠ none ∧
        presented.Shows .server (some server.text) request := by
  rw [← serverPathHolds_iff]
  exact andThen_asked_iff (staged_serverStage policy fs presented server now)

theorem verifyServer_rejection_iff (apart : policy.FailsApart fs) {reason : String} :
    (∃ failure, (policy.verifyServer fs presented server now).outcome = .error failure ∧
      failure.rejection? = some reason) ↔
    policy.ServerPathHolds fs presented server now ∧
      policy.Answers presented .server (some server.text) (.error reason) := by
  rw [← serverPathHolds_iff]
  exact andThen_rejection_iff (staged_serverStage policy fs presented server now) apart

/-- Without verification roots are not even asked for. -/
theorem verifyServer_of_none (mode : policy.mode = .none) (bundle : Option BundleSupplier)
    (others : FileSystem) :
    ({ policy with bundle } : PeerPolicy).verifyServer others presented server now =
      policy.verifyServer fs presented server now := by
  have stage (p : PeerPolicy) (files : FileSystem) (none : p.mode = .none) :
      p.serverStage files presented server now = pure () := serverStage_of_none none
  unfold verifyServer
  rw [stage policy fs mode, stage { policy with bundle } others mode]
  rfl

/-- The check matters by its answer to what it is asked, and by nothing else. -/
theorem verifyServer_congr {check check' : PeerCheck} (asks : policy.check = some check)
    (same : ∀ request, (policy.verifyServer fs presented server now).asked = some request →
      check' request = check request) :
    ({ policy with check := some check' } : PeerPolicy).verifyServer fs presented server now =
      policy.verifyServer fs presented server now := by
  cases stage : Verification.outcome (policy.serverStage fs presented server now) with
  | ok =>
    have holds := serverPathHolds_iff.1 <|
      (staged_serverStage policy fs presented server now).ok_iff.1 stage
    have answers := checkPeer_congr asks fun request shows =>
      same request (verifyServer_asked_iff.2 ⟨holds, by simp [asks], shows⟩)
    exact congrArg (andThen _) answers
  | error failure =>
    obtain ⟨events, ends⟩ := andThen_of_error stage
    exact (ends _).trans (ends _).symm

/-- How a server is decided on. -/
structure DecidesServer (policy : PeerPolicy) (fs : FileSystem) (presented : Presented)
    (server : ServerName) (now : Int) (verdict : Verdict) : Prop where
  accepted : verdict.outcome = .ok () ↔ policy.ServerPathHolds fs presented server now ∧
    (policy.check = none ∨ policy.Answers presented .server (some server.text) (.ok ()))
  /-- The check is asked after the first stage only, and if there is something to show. -/
  asked : ∀ request, verdict.asked = some request ↔
    policy.ServerPathHolds fs presented server now ∧ policy.check ≠ none ∧
      presented.Shows .server (some server.text) request
  shown : ∀ request, verdict.asked = some request →
    request.chain.ders = presented.endEntity :: presented.intermediates
  readable : (∃ request, presented.Shows .server (some server.text) request) ↔
    ∀ der ∈ presented.endEntity :: presented.intermediates,
      (Certificate.ofDer? der).isSome = true
  /-- It is asked nothing else. -/
  heard : ∀ check check' : PeerCheck, policy.check = some check →
    (∀ request, verdict.asked = some request → check' request = check request) →
    ({ policy with check := some check' } : PeerPolicy).verifyServer fs presented server now =
      verdict
  unverified : policy.mode = .none → ∀ (bundle : Option BundleSupplier) (others : FileSystem),
    ({ policy with bundle } : PeerPolicy).verifyServer others presented server now = verdict
  rootless : policy.mode ≠ .none → ∀ failure, policy.Rootless fs failure →
    verdict.outcome = .error failure.toHandshake ∧ verdict.asked = none
  rejected : policy.FailsApart fs → ∀ reason,
    (∃ failure, verdict.outcome = .error failure ∧ failure.rejection? = some reason) ↔
      policy.ServerPathHolds fs presented server now ∧
        policy.Answers presented .server (some server.text) (.error reason)

/-- A server is accepted exactly when both stages say so, and the check has no say before the path
holds. -/
theorem server_needs_both_stages (policy : PeerPolicy) (fs : FileSystem) (presented : Presented)
    (server : ServerName) (now : Int) : DecidesServer policy fs presented server now
      (policy.verifyServer fs presented server now) where
  accepted := verifyServer_ok_iff
  asked _ := verifyServer_asked_iff
  shown _ asked := (verifyServer_asked_iff.1 asked).2.2.ders
  readable := Presented.exists_shows_iff
  heard _ _ := verifyServer_congr
  unverified := verifyServer_of_none
  rootless mode failure rootless := by
    rcases verifyServer_cases policy fs presented server now with
      ⟨holds, -⟩ | ⟨-, asked, failure', outcome, course⟩
    · rcases holds with unverified | ⟨anchors, supplies, -⟩
      · exact absurd unverified mode
      · exact absurd supplies rootless.not_supplies
    · rw [outcome, course.of_rootless mode rootless]
      exact ⟨rfl, asked⟩
  rejected apart _ := verifyServer_rejection_iff apart

/-- A server whose path nobody verifies is refused by a check, for the reason that it gave. -/
theorem server_needs_both_stages_refused :
    ∃ (policy : PeerPolicy) (fs : FileSystem) (presented : Presented) (server : ServerName)
      (verdict : Verdict), policy.FailsApart fs ∧
      DecidesServer policy fs presented server 0 verdict ∧
      ∃ failure, verdict.outcome = .error failure ∧ failure.rejection? = some "revoked" := by
  let policy : PeerPolicy := ⟨.none, some fun _ => .error "revoked", none⟩
  let fs : FileSystem := ⟨fun _ => .error .notFound, fun _ => .error .notFound⟩
  let presented : Presented := ⟨Certificate.leastDer 1, []⟩
  have apart : policy.FailsApart fs := fun supplier failure asks => by cases asks
  have decides := server_needs_both_stages policy fs presented (.dns "localhost") 0
  obtain ⟨request, shows⟩ := decides.readable.2 fun der mem => by
    rw [List.mem_singleton.1 mem, Certificate.ofDer?_leastDer 1 (by decide), Option.isSome_some]
  refine ⟨policy, fs, presented, .dns "localhost", _, apart, decides, ?_⟩
  exact (decides.rejected apart "revoked").2 ⟨.inl rfl, _, request, rfl, shows, rfl⟩

end Server

end PeerPolicy
end CredentialRotation
