import CredentialRotation.Proofs.Credential.HeldSnapshot
import CredentialRotation.Proofs.Policy.ServerVerification
import CredentialRotation.Proofs.Policy.ClientVerification
import CredentialRotation.Proofs.Trust.ShortPath
import CredentialRotation.Proofs.Rsa.PrivateKey
import CredentialRotation.Tls.Handshake

/-!
Who gets through a handshake. Nobody checks that a stored key and its leaf belong together, and a
mode may leave chains alone; still each side that is asked for an identity has to hold one, to be
accepted with the very chain that it holds, and to sign with the key of that chain's leaf.
-/
namespace CredentialRotation

/-- The numbers of a key are those of the public key in a certificate. -/
def Rsa.Components.BelongsTo (signer : Rsa.Components) (leaf : Octets) : Prop :=
  ∃ c octets, Trust.Candidate.ofDer leaf = .ok c ∧
    Trust.keyOctets (SignatureScheme.rsaSalted .sha512).keyIdentifier c.keyInfo = .ok octets ∧
    Rsa.PublicKey.read? octets = some ⟨signer.modulus, signer.publicExponent⟩

theorem Rsa.Components.BelongsTo.ne_nil {signer : Rsa.Components} {leaf : Octets}
    (belongs : signer.BelongsTo leaf) : leaf ≠ [] := by
  rintro rfl
  obtain ⟨c, octets, read, -⟩ := belongs
  cases read

/-- A snapshot of a key that was read from a document. -/
structure Snapshot.Genuine (s : Snapshot) : Prop where
  made : s.Made
  read : ∃ document, PrivateKey.ofPkcs8? document = some s.key

/-- What is handed out of such a snapshot. -/
structure Snapshot.Serves (s : Snapshot) (identity : CertifiedKey) : Prop where
  chain : identity.chain = s.chain.ders
  leaf : identity.presented.endEntity = s.leaf.der
  signer : identity.signer = s.key.components
  consistent : identity.signer.Consistent

theorem Snapshot.Genuine.serves {s : Snapshot} (genuine : s.Genuine) : s.Serves s.certified := by
  obtain ⟨⟨key, chain, pairs⟩, document, read⟩ := genuine
  obtain ⟨-, nonempty, rfl⟩ := make_eq_ok_iff.1 pairs
  refine ⟨rfl, ?_, rfl, PrivateKey.consistent_of_ofPkcs8? read⟩
  obtain ⟨_ | ⟨leaf, rest⟩⟩ := chain
  · exact absurd rfl nonempty
  · rfl

namespace Handshake
variable {signer : Rsa.Components} {leaf : Octets} {manager : IdentityManager}
  {verdict : Verdict} {identity : CertifiedKey}

theorem checkPossession_eq_ok_iff : checkPossession signer leaf = .ok () ↔
    signer.BelongsTo leaf ∧
      (⟨signer.modulus, signer.publicExponent⟩ : Rsa.PublicKey).isSupported = true := by
  unfold checkPossession Rsa.Components.BelongsTo
  dsimp only
  rw [mapError_eq_ok_iff]
  cases Trust.Candidate.ofDer leaf with
  | error failure => exact iff_of_false nofun (by simp)
  | ok c =>
    simp only [Except.ok.injEq, exists_and_left, exists_eq_left', bind, Except.bind]
    cases Trust.keyOctets (SignatureScheme.rsaSalted .sha512).keyIdentifier c.keyInfo with
    | error failure => exact iff_of_false nofun (by simp)
    | ok octets =>
      simp only [Except.ok.injEq, exists_eq_left']
      cases Rsa.PublicKey.read? octets with
      | none => exact iff_of_false nofun (by simp)
      | some key =>
        simp only [Option.some.injEq]
        split
        next good => exact iff_of_true rfl ⟨good.1, good.1 ▸ good.2⟩
        next bad => exact iff_of_false nofun fun good => bad ⟨good.1, good.1 ▸ good.2⟩

theorem resolve_value (manager : IdentityManager) (role : Role) :
    (manager.resolve role).value = manager.store.certified? := by
  unfold IdentityManager.resolve
  cases manager.store.certified? <;> rfl

theorem provenBy_ok_iff : (provenBy verdict identity).outcome = .ok () ↔
    verdict.outcome = .ok () ∧
      checkPossession identity.signer identity.presented.endEntity = .ok () := by
  unfold provenBy
  cases verdict.outcome with
  | error failure => exact iff_of_false nofun nofun
  | ok => exact (and_iff_right rfl).symm

/-- One side of a handshake got through to the other with what its store holds, after this verdict
on what it presented. -/
structure Admitted (manager : IdentityManager) (verdict : Verdict) (identity : CertifiedKey) :
    Prop where
  configured : manager.store.isConfigured = true
  held : manager.store.certified? = some identity
  /-- The other side accepted the whole chain that the store holds, its leaf as the end entity. -/
  whole : identity.presented.endEntity :: identity.presented.intermediates = identity.chain
  accepted : verdict.outcome = .ok ()
  signs : identity.signer.signs = true
  belongs : identity.signer.BelongsTo identity.presented.endEntity
  supported :
    (⟨identity.signer.modulus, identity.signer.publicExponent⟩ : Rsa.PublicKey).isSupported = true
  /-- So the stored key is the private half of the public key in the stored leaf. -/
  serves : ∀ s, manager.store.snapshot? = some s → s.Genuine → s.Serves identity

theorem admitted_iff : Admitted manager verdict identity ↔
    manager.store.certified? = some identity ∧ identity.signer.signs = true ∧
      (provenBy verdict identity).outcome = .ok () := by
  rw [provenBy_ok_iff, checkPossession_eq_ok_iff]
  constructor
  · intro admitted
    exact ⟨admitted.held, admitted.signs, admitted.accepted, admitted.belongs, admitted.supported⟩
  · rintro ⟨held, signs, accepted, belongs, supported⟩
    have whole : identity.presented.endEntity :: identity.presented.intermediates =
        identity.chain := by
      obtain ⟨_ | ⟨leaf, rest⟩, signer⟩ := identity
      · exact absurd rfl belongs.ne_nil
      · rfl
    refine ⟨?_, held, whole, accepted, signs, belongs, supported, fun s stored genuine => ?_⟩
    · obtain ⟨s, stored, -⟩ := Option.map_eq_some_iff.1 held
      exact (Store.describes stored).configured.1
    · obtain rfl := Option.some.inj ((Store.describes stored).certified.symm.trans held)
      exact genuine.serves

theorem admitClient_ok_iff {fs : FileSystem} {policy : PeerPolicy} {client : IdentityManager}
    {now : Int} :
    (admitClient fs policy client.store.certified? now).outcome = .ok () ↔
      ∃ identity, Admitted client (policy.verifyClient fs identity.presented now) identity := by
  simp only [admitted_iff]
  unfold admitClient
  cases client.store.certified? with
  | none => exact iff_of_false nofun (by simp)
  | some identity =>
    simp only [Option.some.injEq, exists_eq_left']
    cases identity.signer.signs with
    | false => exact iff_of_false nofun (by simp)
    | true => simp

/-- What a handshake has to show for it when it is complete. -/
structure Completes (fs : FileSystem) (server : IdentityManager)
    (serverPolicy : Option PeerPolicy) (client : IdentityManager) (clientPolicy : PeerPolicy)
    (name : ServerName) (now : Int) (connection : Connection) : Prop where
  server : ∃ identity,
    Admitted server (clientPolicy.verifyServer fs identity.presented name now) identity ∧
      connection.serverChain = identity.chain
  client : ∀ policy, serverPolicy = some policy → ∃ identity,
    Admitted client (policy.verifyClient fs identity.presented now) identity ∧
      connection.clientChain = some identity.chain
  unasked : serverPolicy = none → connection.clientChain = none

section Run
variable {fs : FileSystem} {server client : IdentityManager} {serverPolicy : Option PeerPolicy}
  {clientPolicy : PeerPolicy} {name : ServerName} {now : Int} {connection : Connection}

/-- Both sides are admitted. -/
theorem Completes.mutual {policy : PeerPolicy} {own : CertifiedKey}
    (served : Admitted server (clientPolicy.verifyServer fs identity.presented name now) identity)
    (returned : Admitted client (policy.verifyClient fs own.presented now) own) :
    Completes fs server (some policy) client clientPolicy name now
      ⟨identity.chain, some own.chain⟩ where
  server := ⟨identity, served, rfl⟩
  client policy same := by
    obtain rfl := Option.some.inj same
    exact ⟨own, returned, rfl⟩
  unasked none := nomatch none

/-- No handshake completes with a server that the client does not admit. -/
theorem exists_admitted_of_run
    (completes : (run fs server serverPolicy client clientPolicy name now).outcome =
      .ok connection) :
    ∃ identity,
      Admitted server (clientPolicy.verifyServer fs identity.presented name now) identity := by
  simp only [admitted_iff]
  unfold run at completes
  dsimp only at completes
  rw [resolve_value] at completes
  cases resolved : server.store.certified? with
  | none =>
    rw [resolved] at completes
    cases completes
  | some identity =>
    refine ⟨identity, rfl, ?_⟩
    rw [resolved] at completes
    dsimp only at completes
    split at completes
    next mute => cases completes
    next signs =>
      refine ⟨by simpa using signs, ?_⟩
      split at completes
      next failure refused => cases completes
      next accepted => exact accepted
      next policy accepted => exact accepted

/-- Once the server is admitted, the client decides. -/
theorem run_of_admitted
    (admitted :
      Admitted server (clientPolicy.verifyServer fs identity.presented name now) identity) :
    (run fs server serverPolicy client clientPolicy name now).outcome =
      match serverPolicy with
      | none => .ok ⟨identity.chain, none⟩
      | some policy => (admitClient fs policy client.store.certified? now).outcome.map fun _ =>
          ⟨identity.chain, client.store.certified?.map (·.chain)⟩ := by
  obtain ⟨held, signs, accepted⟩ := admitted_iff.1 admitted
  unfold run
  dsimp only
  rw [resolve_value, held]
  dsimp only
  rw [signs, accepted]
  cases serverPolicy with
  | none => rfl
  | some policy =>
    simp only [Option.isSome_some, if_true, resolve_value]
    rfl

/-- A handshake completes exactly if the server is admitted by the client and, where a policy on
clients is set, in whatever mode, the client is admitted by the server. -/
theorem completes_iff_admitted (fs : FileSystem) (server : IdentityManager)
    (serverPolicy : Option PeerPolicy) (client : IdentityManager) (clientPolicy : PeerPolicy)
    (name : ServerName) (now : Int) (connection : Connection) :
    (run fs server serverPolicy client clientPolicy name now).outcome = .ok connection ↔
      Completes fs server serverPolicy client clientPolicy name now connection := by
  constructor
  · intro completes
    obtain ⟨identity, admitted⟩ := exists_admitted_of_run completes
    rw [run_of_admitted admitted] at completes
    cases serverPolicy with
    | none =>
      obtain rfl := Except.ok.inj completes
      exact ⟨⟨identity, admitted, rfl⟩, nofun, fun _ => rfl⟩
    | some policy =>
      dsimp only at completes
      cases byServer : (admitClient fs policy client.store.certified? now).outcome with
      | error failure =>
        rw [byServer] at completes
        cases completes
      | ok =>
        obtain ⟨own, admitted'⟩ := admitClient_ok_iff.1 byServer
        rw [byServer, admitted'.held] at completes
        obtain rfl := Except.ok.inj completes
        exact .mutual admitted admitted'
  · obtain ⟨serverChain, clientChain⟩ := connection
    rintro ⟨⟨identity, admitted, rfl⟩, clients, unasked⟩
    rw [run_of_admitted admitted]
    cases serverPolicy with
    | none =>
      obtain rfl : clientChain = none := unasked rfl
      rfl
    | some policy =>
      obtain ⟨own, admitted', rfl⟩ := clients policy rfl
      dsimp only
      rw [admitClient_ok_iff.2 ⟨own, admitted'⟩, admitted'.held]
      rfl

end Run

section Mutual
open Der.Strict (encode integerTag sequenceTag bitStringTag)

/-- The public half of the key with neighbouring factors. -/
private def publicKeyDer : Octets :=
  -- The modulus is `2 ^ 2048 - 2 ^ 1026 + 3`, whose octets are written down faster than found.
  let modulus : Octets := List.replicate 127 0xff ++ 0xfc :: List.replicate 127 0 ++ [3]
  encode sequenceTag (encode integerTag (0 :: modulus) ++ encode integerTag [1, 0, 1])

private def publicKeyInfo : Octets :=
  encode sequenceTag (SignatureScheme.rsaSalted .sha512).keyIdentifier ++
    encode bitStringTag (0 :: publicKeyDer)

private def soleName : Octets := encode 0x82 (Octets.ascii "a.example")

/-- The leaf of this key. -/
private def ownLeafDer : Octets := Trust.issuedLeafDer publicKeyInfo soleName

private theorem ofDer_ownLeafDer :
    Trust.Candidate.ofDer ownLeafDer = .ok (Trust.issuedLeaf publicKeyInfo soleName) :=
  eq_ok_of_toOption (by decide +kernel)

private theorem neighbours_belongsTo : PrivateKey.neighbours.BelongsTo ownLeafDer :=
  ⟨_, publicKeyDer, ofDer_ownLeafDer, eq_ok_of_toOption (by decide +kernel), by decide +kernel⟩

private theorem verifyServerChain_ownLeafDer :
    PeerPolicy.verifyServerChain [Trust.neutralAnchor] ⟨ownLeafDer, []⟩ (.dns "a.example")
      1800000000 = .ok () := by
  have path := PeerPolicy.verifyPath_issuedLeaf ofDer_ownLeafDer [] .serverAuthentication
  have named : (Trust.issuedLeaf publicKeyInfo soleName).verifyName (.dns "a.example") = .ok () :=
    eq_ok_of_toOption (by decide +kernel)
  exact PeerPolicy.verifyServerChain_eq_ok path named

/-- Both sides present the same identity. The client verifies chain and name of the server, and the
server leaves the chain of the client alone. -/
theorem completes_iff_admitted_mutual :
    ∃ (fs : FileSystem) (manager : IdentityManager) (s : Snapshot)
      (serverPolicy clientPolicy : PeerPolicy), manager.store.snapshot? = some s ∧ s.Genuine ∧
      serverPolicy.mode = .none ∧ clientPolicy.mode = .full ∧
      (run fs manager (some serverPolicy) manager clientPolicy (.dns "a.example")
        1800000000).outcome = .ok ⟨s.certified.chain, some s.certified.chain⟩ := by
  have readable : (Certificate.ofDer? ownLeafDer).isSome = true := by decide +kernel
  obtain ⟨certificate, read⟩ := Option.isSome_iff_exists.1 readable
  have der : certificate.der = ownLeafDer := Certificate.der_of_ofDer? read
  let key : PrivateKey := ⟨PrivateKey.encodePkcs8 PrivateKey.neighbours, PrivateKey.neighbours⟩
  let s : Snapshot := .ofPair key ⟨[certificate]⟩ (List.cons_ne_nil _ _)
  let manager : IdentityManager := ⟨Store.empty.set s⟩
  let fs : FileSystem := ⟨fun _ => .error .notFound, fun _ => .error .notFound⟩
  let serverPolicy : PeerPolicy := ⟨.none, none, none⟩
  let clientPolicy : PeerPolicy := ⟨.full, none, some fun _ => pure [Trust.neutralAnchor]⟩
  have genuine : s.Genuine := by
    have signs := PrivateKey.canSign_encodePkcs8 PrivateKey.neighbours_short
      PrivateKey.neighbours_signable
    exact ⟨⟨key, _, Snapshot.make_eq_ok_iff.2 ⟨signs, List.cons_ne_nil _ _, rfl⟩⟩, key.der,
      PrivateKey.ofPkcs8?_encodePkcs8 PrivateKey.neighbours_short PrivateKey.neighbours_consistent⟩
  have signs : PrivateKey.neighbours.signs = true := by decide +kernel
  have supported : (⟨PrivateKey.neighbours.modulus, PrivateKey.neighbours.publicExponent⟩ :
      Rsa.PublicKey).isSupported = true := by decide +kernel
  have presented : s.certified.presented = ⟨ownLeafDer, []⟩ := by rw [← der]; rfl
  have admitted {verdict : Verdict} (accepted : verdict.outcome = .ok ()) :
      Admitted manager verdict s.certified := by
    refine admitted_iff.2 ⟨rfl, signs, ?_⟩
    rw [provenBy_ok_iff, checkPossession_eq_ok_iff, presented]
    exact ⟨accepted, neighbours_belongsTo, supported⟩
  have byClient : (clientPolicy.verifyServer fs s.certified.presented (.dns "a.example")
      1800000000).outcome = .ok () := by
    refine PeerPolicy.verifyServer_ok_iff.2 ⟨.inr ⟨[Trust.neutralAnchor], ?_, .inl ?_⟩, .inl rfl⟩
    · exact ⟨⟨_, rfl, rfl⟩, List.cons_ne_nil _ _⟩
    · rw [presented]
      exact verifyServerChain_ownLeafDer
  have byServer : (serverPolicy.verifyClient fs s.certified.presented 1800000000).outcome =
      .ok () := PeerPolicy.verifyClient_ok_iff.2 ⟨.inl rfl, .inl rfl⟩
  refine ⟨fs, manager, s, serverPolicy, clientPolicy, rfl, genuine, rfl, rfl, ?_⟩
  exact (completes_iff_admitted ..).2 (.mutual (admitted byClient) (admitted byServer))

end Mutual

end Handshake
end CredentialRotation
