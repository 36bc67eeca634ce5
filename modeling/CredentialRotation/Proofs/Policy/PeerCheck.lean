import CredentialRotation.Policy.PeerPolicy
import CredentialRotation.Proofs.X509.Certificate

/-!
The second stage of a verification: a check that, if there is one, is asked once, about all that the
peer presented, and only after the first stage has passed.
-/
namespace CredentialRotation

theorem mapM_eq_some_iff {α β : Type} {f : α → Option β} {as : List α} {bs : List β} :
    as.mapM f = some bs ↔ bs.map some = as.map f := by
  induction as generalizing bs with
  | nil => cases bs <;> simp
  | cons a as ih =>
    simp only [List.mapM_cons, Option.bind_eq_bind, Option.bind_eq_some_iff, List.map_cons,
      Option.pure_def, Option.some.injEq]
    constructor
    · rintro ⟨b, first, rest, mapped, rfl⟩
      rw [List.map_cons, first, ih.1 mapped]
    · intro h
      obtain ⟨b, rest, rfl, first, mapped⟩ := List.map_eq_cons_iff.1 h
      exact ⟨b, first.symm, rest, ih.2 mapped, rfl⟩

theorem exists_map_some {α β : Type} {f : α → Option β} {as : List α}
    (all : ∀ a ∈ as, (f a).isSome = true) : ∃ bs : List β, bs.map some = as.map f := by
  induction as with
  | nil => exact ⟨[], rfl⟩
  | cons a as ih =>
    obtain ⟨first, rest⟩ := List.forall_mem_cons.1 all
    obtain ⟨b, isFirst⟩ := Option.isSome_iff_exists.1 first
    obtain ⟨bs, areRest⟩ := ih rest
    exact ⟨b :: bs, by rw [List.map_cons, List.map_cons, isFirst, areRest]⟩

/-- Certificates that were read from some octets are made of these octets. -/
theorem map_der_of_map_some {certificates : List Certificate} {ders : List Octets}
    (read : certificates.map some = ders.map Certificate.ofDer?) :
    certificates.map (·.der) = ders := by
  induction ders generalizing certificates with
  | nil => simpa using read
  | cons der ders ih =>
    obtain ⟨c, rest, rfl, first, others⟩ := List.map_eq_cons_iff.1 read
    rw [List.map_cons, ih others, Certificate.der_of_ofDer? first.symm]

/-- What a check is shown of presented certificates: all of them, the peer's own first. -/
structure Presented.Shows (presented : Presented) (role : Role) (serverName : Option String)
    (request : PeerRequest) : Prop where
  chain : request.chain.certificates.map some =
    (presented.endEntity :: presented.intermediates).map Certificate.ofDer?
  authType : ∃ leaf, Certificate.ofDer? presented.endEntity = some leaf ∧
    request.authType = leaf.keyAlgorithm
  role : request.peerRole = role
  serverName : request.serverName = serverName

section Showing
variable {presented : Presented} {role : Role} {serverName : Option String} {request : PeerRequest}

theorem PeerPolicy.request?_eq_some_iff :
    request? presented role serverName = some request ↔
      presented.Shows role serverName request := by
  simp only [request?, Chain.ofDers?, Option.bind_eq_bind, Option.bind_eq_some_iff,
    Option.map_eq_some_iff, Option.pure_def, Option.some.injEq]
  constructor
  · rintro ⟨_, ⟨certificates, read, rfl⟩, leaf, first, rfl⟩
    have chain := mapM_eq_some_iff.1 read
    obtain ⟨rest, rfl⟩ := List.head?_eq_some_iff.1 first
    exact ⟨chain, ⟨leaf, (List.cons.inj chain).1.symm, rfl⟩, rfl, rfl⟩
  · rintro ⟨chain, ⟨leaf, own, authType⟩, rfl, rfl⟩
    obtain ⟨⟨certificates⟩, _, _, _⟩ := request
    refine ⟨_, ⟨certificates, mapM_eq_some_iff.2 chain, rfl⟩, leaf, ?_, ?_⟩
    · obtain ⟨first, rest, rfl, same, -⟩ := List.map_eq_cons_iff.1 chain
      exact same.trans own
    · simp only at authType
      rw [authType]

namespace Presented

theorem Shows.unique {other : PeerRequest} (shows : presented.Shows role serverName request)
    (shows' : presented.Shows role serverName other) : request = other := by
  rw [← PeerPolicy.request?_eq_some_iff] at shows shows'
  exact Option.some.inj (shows.symm.trans shows')

/-- The check is shown the very octets that were presented, in order. -/
theorem Shows.ders (shows : presented.Shows role serverName request) :
    request.chain.ders = presented.endEntity :: presented.intermediates :=
  map_der_of_map_some shows.chain

/-- There is something to show exactly if every presented certificate can be read. -/
theorem exists_shows_iff : (∃ request, presented.Shows role serverName request) ↔
    ∀ der ∈ presented.endEntity :: presented.intermediates,
      (Certificate.ofDer? der).isSome = true := by
  constructor
  · rintro ⟨request, shows⟩ der mem
    obtain ⟨certificate, -, read⟩ := List.mem_map.1 (shows.chain ▸ List.mem_map_of_mem mem)
    rw [← read, Option.isSome_some]
  · intro readable
    obtain ⟨certificates, read⟩ := exists_map_some readable
    obtain ⟨leaf, rest, rfl, own, -⟩ := List.map_eq_cons_iff.1 read
    exact ⟨⟨⟨leaf :: rest⟩, leaf.keyAlgorithm, role, serverName⟩, read, ⟨leaf, own.symm, rfl⟩, rfl,
      rfl⟩

end Presented
end Showing

namespace PeerPolicy
variable {policy : PeerPolicy} {presented : Presented} {role : Role} {serverName : Option String}
  {request : PeerRequest} {check : PeerCheck} {answer : Except String Unit}

/-- The policy has a check, and shown what was presented it gives this answer. -/
def Answers (policy : PeerPolicy) (presented : Presented) (role : Role)
    (serverName : Option String) (answer : Except String Unit) : Prop :=
  ∃ check request, policy.check = some check ∧ presented.Shows role serverName request ∧
    check request = answer

theorem answers_iff (asks : policy.check = some check)
    (shows : presented.Shows role serverName request) :
    policy.Answers presented role serverName answer ↔ check request = answer := by
  constructor
  · rintro ⟨check', request', asks', shows', answers⟩
    obtain rfl := Option.some.inj (asks.symm.trans asks')
    rwa [shows.unique shows']
  · intro answers
    exact ⟨check, request, asks, shows, answers⟩

/-- A check gives a single answer. -/
theorem Answers.unique {other : Except String Unit}
    (answers : policy.Answers presented role serverName answer)
    (answers' : policy.Answers presented role serverName other) : answer = other := by
  obtain ⟨check, request, asks, shows, gives⟩ := answers
  rw [answers_iff asks shows] at answers'
  exact gives.symm.trans answers'

/-- Of a check nothing matters but what it answers to what was presented. -/
theorem checkPeer_congr {check' : PeerCheck} (asks : policy.check = some check)
    (same : ∀ request, presented.Shows role serverName request →
      check' request = check request) :
    ({ policy with check := some check' } : PeerPolicy).checkPeer presented role serverName =
      policy.checkPeer presented role serverName := by
  unfold checkPeer
  rw [asks]
  cases reads : request? presented role serverName with
  | none => rfl
  | some request => simp only [same request (request?_eq_some_iff.1 reads)]

/-- The courses of a check, with what each comes to. -/
inductive Checked (policy : PeerPolicy) (presented : Presented) (role : Role)
    (serverName : Option String) : Verdict → Prop
  | unchecked (absent : policy.check = none) :
    Checked policy presented role serverName ⟨.ok (), none, []⟩
  | unreadable {check : PeerCheck} (asks : policy.check = some check)
      (unshown : ∀ request, ¬ presented.Shows role serverName request) :
    Checked policy presented role serverName ⟨.error (.certificate .malformed), none, []⟩
  | accepted {check : PeerCheck} {request : PeerRequest} (asks : policy.check = some check)
      (shows : presented.Shows role serverName request) (accepts : check request = .ok ()) :
    Checked policy presented role serverName ⟨.ok (), some request, []⟩
  | refused {check : PeerCheck} {request : PeerRequest} {reason : String}
      (asks : policy.check = some check) (shows : presented.Shows role serverName request)
      (refuses : check request = .error reason) :
    Checked policy presented role serverName
      ⟨.error (.peerRejected reason), some request, [.peerRefused role reason]⟩

theorem checked_checkPeer (policy : PeerPolicy) (presented : Presented) (role : Role)
    (serverName : Option String) :
    Checked policy presented role serverName (policy.checkPeer presented role serverName) := by
  unfold checkPeer
  cases asks : policy.check with
  | none => exact .unchecked asks
  | some check =>
    cases reads : request? presented role serverName with
    | none =>
      refine .unreadable asks fun request shows => ?_
      cases reads.symm.trans (request?_eq_some_iff.2 shows)
    | some request =>
      have shows := request?_eq_some_iff.1 reads
      cases answer : check request with
      | ok =>
        simp only [answer]
        exact .accepted asks shows answer
      | error reason =>
        simp only [answer]
        exact .refused asks shows answer

variable {verdict : Verdict}

theorem Checked.ok_iff (course : Checked policy presented role serverName verdict) :
    verdict.outcome = .ok () ↔
      policy.check = none ∨ policy.Answers presented role serverName (.ok ()) := by
  cases course with
  | unchecked absent => simp [absent]
  | unreadable asks unshown => simp [asks, unshown, Answers]
  | accepted asks shows accepts => simp [asks, answers_iff asks shows, accepts]
  | refused asks shows refuses => simp [asks, answers_iff asks shows, refuses]

theorem Checked.asked_iff (course : Checked policy presented role serverName verdict) :
    verdict.asked = some request ↔
      policy.check ≠ none ∧ presented.Shows role serverName request := by
  have same {shown : PeerRequest} (shows : presented.Shows role serverName shown) :
      some shown = some request ↔ presented.Shows role serverName request := by
    rw [Option.some.injEq]
    exact ⟨fun same => same ▸ shows, shows.unique⟩
  cases course with
  | unchecked absent => simp [absent]
  | unreadable asks unshown => simp [unshown]
  | accepted asks shows accepts => simpa [asks] using same shows
  | refused asks shows refuses => simpa [asks] using same shows

/-- From the failure of a check its reason can be read again. -/
theorem Checked.rejection_iff (course : Checked policy presented role serverName verdict)
    {reason : String} :
    (∃ failure, verdict.outcome = .error failure ∧ failure.rejection? = some reason) ↔
      policy.Answers presented role serverName (.error reason) := by
  cases course with
  | unchecked absent => simp [absent, Answers]
  | unreadable asks unshown => simp [unshown, Answers, HandshakeFailure.rejection?]
  | accepted asks shows accepts => simp [answers_iff asks shows, accepts]
  | refused asks shows refuses =>
    simp [answers_iff asks shows, refuses, HandshakeFailure.rejection?]

/-- A check fails with its own reason, or because there is something it cannot be shown. -/
theorem Checked.failure_cases (course : Checked policy presented role serverName verdict)
    {failure : HandshakeFailure} (fails : verdict.outcome = .error failure) :
    failure = .certificate .malformed ∨
      ∃ reason, failure = .peerRejected reason ∧
        policy.Answers presented role serverName (.error reason) := by
  cases course with
  | unchecked absent => cases fails
  | unreadable asks unshown => exact .inl (Except.error.inj fails).symm
  | accepted asks shows accepts => cases fails
  | refused asks shows refuses =>
    exact .inr ⟨_, (Except.error.inj fails).symm, (answers_iff asks shows).2 refuses⟩

end PeerPolicy
end CredentialRotation
