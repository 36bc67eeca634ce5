import CredentialRotation.Policy.PeerPolicy
import CredentialRotation.Proofs.Credential.Loading
import CredentialRotation.Proofs.Policy.PeerCheck

/-!
The first stage of a verification: where its roots come from, what a chain under them comes to, and
how it hands over to the second stage, the check.
-/
namespace CredentialRotation

namespace PeerPolicy

/-- What steps of a verification come to. -/
def Verification.outcome {α : Type} (x : Verification α) : Except HandshakeFailure α :=
  (ExceptT.run x).value

theorem Verification.outcome_bind {α β : Type} (x : Verification α) (f : α → Verification β) :
    outcome (x >>= f) = (outcome x).bind fun a => outcome (f a) := by
  obtain ⟨result, events⟩ := x
  cases result <;> rfl

section Roots
variable {policy : PeerPolicy} {fs : FileSystem} {anchors : List Trust.Anchor}
  {failure : CredentialFailure}

/-- The supplier answers with these roots, of which there is at least one. -/
def Supplies (policy : PeerPolicy) (fs : FileSystem) (anchors : List Trust.Anchor) : Prop :=
  (∃ supplier, policy.bundle = some supplier ∧ (supplier fs).outcome = .ok anchors) ∧ anchors ≠ []

/-- The supplier does not fail with what a handshake fails with, so that no failure of its own can
be taken for a rejection. -/
def FailsApart (policy : PeerPolicy) (fs : FileSystem) : Prop :=
  ∀ supplier failure, policy.bundle = some supplier → (supplier fs).outcome = .error failure →
    (∀ reason, failure ≠ .peerRejected reason) ∧ ∀ cause, failure ≠ .tls cause

/-- The ways in which there can be no roots. -/
inductive Rootless (policy : PeerPolicy) (fs : FileSystem) : CredentialFailure → Prop
  | missing (absent : policy.bundle = none) :
    Rootless policy fs (.trustBundle (.missing policy.mode))
  | failing {supplier : BundleSupplier} {failure : CredentialFailure}
      (asks : policy.bundle = some supplier) (fails : (supplier fs).outcome = .error failure) :
    Rootless policy fs failure
  | empty {supplier : BundleSupplier} (asks : policy.bundle = some supplier)
      (none : (supplier fs).outcome = .ok []) : Rootless policy fs (.trustBundle .noRoots)

theorem supplies_or_rootless (policy : PeerPolicy) (fs : FileSystem) :
    (∃ anchors, (policy.roots fs).outcome = .ok anchors ∧ policy.Supplies fs anchors) ∨
      ∃ failure, (policy.roots fs).outcome = .error failure ∧ policy.Rootless fs failure := by
  unfold roots
  cases asks : policy.bundle with
  | none => exact .inr ⟨_, rfl, .missing asks⟩
  | some supplier =>
    rw [Attempt.outcome_bind]
    cases answer : (supplier fs).outcome with
    | error failure => exact .inr ⟨failure, rfl, .failing asks answer⟩
    | ok anchors =>
      cases anchors with
      | nil => exact .inr ⟨_, rfl, .empty asks answer⟩
      | cons anchor rest =>
        exact .inl ⟨anchor :: rest, rfl, ⟨supplier, asks, answer⟩, List.cons_ne_nil _ _⟩

theorem Supplies.unique {others : List Trust.Anchor} (supplies : policy.Supplies fs anchors)
    (supplies' : policy.Supplies fs others) : anchors = others := by
  obtain ⟨⟨supplier, asks, answer⟩, -⟩ := supplies
  obtain ⟨⟨supplier', asks', answer'⟩, -⟩ := supplies'
  obtain rfl := Option.some.inj (asks.symm.trans asks')
  exact Except.ok.inj (answer.symm.trans answer')

/-- Roots and their absence exclude each other. -/
theorem Rootless.not_supplies (rootless : policy.Rootless fs failure) :
    ¬ policy.Supplies fs anchors := by
  rintro ⟨⟨supplier, asks, answer⟩, nonempty⟩
  cases rootless with
  | missing absent => cases absent.symm.trans asks
  | failing asks' fails =>
    obtain rfl := Option.some.inj (asks.symm.trans asks')
    cases answer.symm.trans fails
  | empty asks' none =>
    obtain rfl := Option.some.inj (asks.symm.trans asks')
    exact nonempty (Except.ok.inj (answer.symm.trans none))

theorem Rootless.roots_outcome (rootless : policy.Rootless fs failure) :
    (policy.roots fs).outcome = .error failure := by
  unfold roots
  cases rootless with
  | missing absent =>
    rw [absent]
    rfl
  | failing asks fails =>
    simp only [asks, Attempt.outcome_bind, fails]
    rfl
  | empty asks none =>
    simp only [asks, Attempt.outcome_bind, none]
    rfl

theorem Rootless.unique {other : CredentialFailure} (rootless : policy.Rootless fs failure)
    (rootless' : policy.Rootless fs other) : failure = other :=
  Except.error.inj (rootless.roots_outcome.symm.trans rootless'.roots_outcome)

theorem Rootless.rejection? (rootless : policy.Rootless fs failure)
    (apart : policy.FailsApart fs) : failure.toHandshake.rejection? = none := by
  cases rootless with
  | missing absent => rfl
  | failing asks fails =>
    obtain ⟨noRejection, noHandshake⟩ := apart _ _ asks fails
    cases failure with
    | peerRejected reason => exact absurd rfl (noRejection reason)
    | tls cause => exact absurd rfl (noHandshake cause)
    | _ => rfl
  | empty asks none => rfl

end Roots

section Course
variable {policy : PeerPolicy} {fs : FileSystem}
  {chain : List Trust.Anchor → Except Trust.Failure Unit} {result : Except HandshakeFailure Unit}

/-- A first stage as it should be: nothing is asked for without verification, and otherwise roots
and a chain that holds under them. -/
def PathHolds (policy : PeerPolicy) (fs : FileSystem)
    (chain : List Trust.Anchor → Except Trust.Failure Unit) : Prop :=
  policy.mode = .none ∨ ∃ anchors, policy.Supplies fs anchors ∧ chain anchors = .ok ()

/-- The courses of a first stage that verifies a chain under the roots it is given. -/
inductive Staged (policy : PeerPolicy) (fs : FileSystem)
    (chain : List Trust.Anchor → Except Trust.Failure Unit) : Except HandshakeFailure Unit → Prop
  | unverified (mode : policy.mode = .none) : Staged policy fs chain (.ok ())
  | rootless {failure : CredentialFailure} (mode : policy.mode ≠ .none)
      (rootless : policy.Rootless fs failure) : Staged policy fs chain (.error failure.toHandshake)
  | verified {anchors : List Trust.Anchor} (mode : policy.mode ≠ .none)
      (supplies : policy.Supplies fs anchors) :
    Staged policy fs chain ((chain anchors).mapError .certificate)

/-- A stage that asks for roots and verifies a chain under them takes one of the courses. -/
theorem staged_of_checks (mode : policy.mode ≠ .none)
    (step : List Trust.Anchor → Verification Unit)
    (verifies : ∀ anchors,
      Verification.outcome (step anchors) = (chain anchors).mapError .certificate) :
    Staged policy fs chain (Verification.outcome (policy.rootsStep fs >>= step)) := by
  rw [Verification.outcome_bind]
  change Staged policy fs chain
    (((policy.roots fs).outcome.mapError CredentialFailure.toHandshake).bind _)
  rcases supplies_or_rootless policy fs with
    ⟨anchors, found, supplies⟩ | ⟨failure, found, rootless⟩
  · rw [found]
    change Staged policy fs chain (Verification.outcome (step anchors))
    rw [verifies]
    exact .verified mode supplies
  · rw [found]
    exact .rootless mode rootless

theorem Staged.ok_iff (course : Staged policy fs chain result) :
    result = .ok () ↔ policy.PathHolds fs chain := by
  cases course with
  | unverified mode => exact iff_of_true rfl (.inl mode)
  | rootless mode rootless =>
    refine iff_of_false nofun ?_
    rintro (unverified | ⟨anchors, supplies, -⟩)
    · exact mode unverified
    · exact rootless.not_supplies supplies
  | verified mode supplies =>
    rw [mapError_eq_ok_iff]
    constructor
    · exact fun holds => .inr ⟨_, supplies, holds⟩
    · rintro (unverified | ⟨anchors, supplies', holds⟩)
      · exact absurd unverified mode
      · rwa [supplies.unique supplies']

theorem Staged.of_rootless (course : Staged policy fs chain result) {failure : CredentialFailure}
    (mode : policy.mode ≠ .none) (rootless : policy.Rootless fs failure) :
    result = .error failure.toHandshake := by
  cases course with
  | unverified unverified => exact absurd unverified mode
  | rootless _ rootless' => rw [rootless.unique rootless']
  | verified _ supplies => exact absurd supplies rootless.not_supplies

theorem Staged.of_supplies (course : Staged policy fs chain result) {anchors : List Trust.Anchor}
    (mode : policy.mode ≠ .none) (supplies : policy.Supplies fs anchors) :
    result = (chain anchors).mapError .certificate := by
  cases course with
  | unverified unverified => exact absurd unverified mode
  | rootless _ rootless => exact absurd supplies rootless.not_supplies
  | verified _ supplies' => rw [supplies.unique supplies']

theorem Staged.of_mode (course : Staged policy fs chain result) (mode : policy.mode ≠ .none) :
    result = ((policy.roots fs).outcome.mapError CredentialFailure.toHandshake).bind fun anchors =>
      (chain anchors).mapError .certificate := by
  rcases supplies_or_rootless policy fs with
    ⟨anchors, found, supplies⟩ | ⟨failure, found, rootless⟩
  · rw [found]
    exact course.of_supplies mode supplies
  · rw [found]
    exact course.of_rootless mode rootless

theorem Staged.rejection? (course : Staged policy fs chain result)
    (apart : policy.FailsApart fs) {failure : HandshakeFailure} (fails : result = .error failure) :
    failure.rejection? = none := by
  cases course with
  | unverified mode => cases fails
  | rootless mode rootless =>
    obtain rfl := Except.error.inj fails
    exact rootless.rejection? apart
  | verified mode supplies =>
    generalize chain _ = answer at fails
    cases answer with
    | ok => cases fails
    | error cause =>
      obtain rfl := Except.error.inj fails
      rfl

end Course

section Verdict
variable {first : Verification Unit} {second : Verdict} {failure : HandshakeFailure}

theorem andThen_outcome (first : Verification Unit) (second : Verdict) :
    (andThen first second).outcome = (Verification.outcome first).bind fun _ => second.outcome := by
  obtain ⟨result, events⟩ := first
  cases result <;> rfl

theorem andThen_of_ok (passes : Verification.outcome first = .ok ()) :
    (andThen first second).outcome = second.outcome ∧
      (andThen first second).asked = second.asked := by
  obtain ⟨result, events⟩ := first
  obtain rfl : result = .ok () := passes
  exact ⟨rfl, rfl⟩

theorem andThen_of_error (fails : Verification.outcome first = .error failure) :
    ∃ events, ∀ second, andThen first second = ⟨.error failure, none, events⟩ := by
  obtain ⟨result, events⟩ := first
  obtain rfl : result = .error failure := fails
  exact ⟨events, fun second => rfl⟩

/-- The two ways of a verification: the second stage decides, or the first has failed. -/
theorem andThen_cases {policy : PeerPolicy} {fs : FileSystem}
    {chain : List Trust.Anchor → Except Trust.Failure Unit}
    (course : Staged policy fs chain (Verification.outcome first)) (second : Verdict) :
    policy.PathHolds fs chain ∧ (andThen first second).outcome = second.outcome ∧
      (andThen first second).asked = second.asked ∨
    ¬ policy.PathHolds fs chain ∧ (andThen first second).asked = none ∧
      ∃ failure, (andThen first second).outcome = .error failure ∧
        Staged policy fs chain (.error failure) := by
  cases stage : Verification.outcome first with
  | ok =>
    rw [stage] at course
    exact .inl ⟨course.ok_iff.1 rfl, andThen_of_ok stage⟩
  | error failure =>
    rw [stage] at course
    obtain ⟨events, ends⟩ := andThen_of_error stage
    refine .inr ⟨fun holds => ?_, ?_, failure, ?_, course⟩
    · cases course.ok_iff.2 holds
    · rw [ends]
    · rw [ends]

end Verdict

section Stages
variable {policy : PeerPolicy} {fs : FileSystem}
  {chain : List Trust.Anchor → Except Trust.Failure Unit} {first : Verification Unit}
  {presented : Presented} {role : Role} {serverName : Option String}

theorem andThen_of_rootless (course : Staged policy fs chain (Verification.outcome first))
    {failure : CredentialFailure} (mode : policy.mode ≠ .none)
    (rootless : policy.Rootless fs failure) (second : Verdict) :
    (andThen first second).outcome = .error failure.toHandshake ∧
      (andThen first second).asked = none := by
  obtain ⟨events, ends⟩ := andThen_of_error (course.of_rootless mode rootless)
  rw [ends]
  exact ⟨rfl, rfl⟩

theorem andThen_ok_iff (course : Staged policy fs chain (Verification.outcome first)) :
    (andThen first (policy.checkPeer presented role serverName)).outcome = .ok () ↔
      policy.PathHolds fs chain ∧
        (policy.check = none ∨ policy.Answers presented role serverName (.ok ())) := by
  rcases andThen_cases course (policy.checkPeer presented role serverName) with
    ⟨holds, outcome, -⟩ | ⟨fails, -, failure, outcome, -⟩
  · rw [outcome, (checked_checkPeer ..).ok_iff]
    simp [holds]
  · simp [outcome, fails]

theorem andThen_asked_iff (course : Staged policy fs chain (Verification.outcome first))
    {request : PeerRequest} :
    (andThen first (policy.checkPeer presented role serverName)).asked = some request ↔
      policy.PathHolds fs chain ∧ policy.check ≠ none ∧
        presented.Shows role serverName request := by
  rcases andThen_cases course (policy.checkPeer presented role serverName) with
    ⟨holds, -, asked⟩ | ⟨fails, asked, -⟩
  · rw [asked, (checked_checkPeer ..).asked_iff]
    simp [holds]
  · simp [asked, fails]

theorem andThen_rejection_iff (course : Staged policy fs chain (Verification.outcome first))
    (apart : policy.FailsApart fs) {reason : String} :
    (∃ failure, (andThen first (policy.checkPeer presented role serverName)).outcome =
        .error failure ∧ failure.rejection? = some reason) ↔
      policy.PathHolds fs chain ∧ policy.Answers presented role serverName (.error reason) := by
  rcases andThen_cases course (policy.checkPeer presented role serverName) with
    ⟨holds, outcome, -⟩ | ⟨fails, -, failure, outcome, course⟩
  · rw [outcome, (checked_checkPeer ..).rejection_iff]
    simp [holds]
  · simp [outcome, fails, course.rejection? apart rfl]

end Stages

end PeerPolicy
end CredentialRotation
