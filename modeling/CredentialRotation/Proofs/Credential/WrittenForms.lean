import CredentialRotation.Proofs.Credential.UsableFiles

/-!
Reading is exact: what is accepted is the one written form of what it is read as, but for the white
space that may stand in a body. So a key or a certificate tells what was written.
-/
namespace CredentialRotation

namespace PrivateKey
variable {body body' : List Char} {key key' : PrivateKey}

/-- A body is read as a key exactly if it is the Base64 of the octets of the key. -/
theorem decodeBody_eq_ok_iff :
    decodeBody body = .ok key ↔
      joinLines body = Base64.text key.der ∧ ofPkcs8? key.der = some key := by
  unfold decodeBody
  constructor
  · intro h
    split at h
    · cases h
    rename_i der written
    split at h
    · rename_i read
      obtain rfl := Except.ok.inj h
      obtain ⟨rfl, -⟩ := kept_of_ofPkcs8? read
      exact ⟨Base64.decode_encode_eq_ok_iff.1 written, read⟩
    · cases h
  · rintro ⟨written, read⟩
    simp only [Base64.decode_encode_eq_ok_iff.2 written, read]

/-- What a text is read as is decided by its key blocks. -/
theorem decode_outcome (text : Octets) :
    (decode text).outcome =
      match Pem.keyBodies (Utf8.decodeLossy text) with
      | [body] => (decodeBody body).mapError .decode
      | _ => .error .keyNotFound := by
  unfold decode
  generalize Pem.keyBodies (Utf8.decodeLossy text) = bodies
  match bodies with
  | [] => rfl
  | [body] =>
    dsimp only
    cases decodeBody body <;> rfl
  | _ :: _ :: _ => rfl

theorem decode_eq_ok_iff {text : Octets} :
    (decode text).outcome = .ok key ↔
      ∃ body, Pem.keyBodies (Utf8.decodeLossy text) = [body] ∧ decodeBody body = .ok key := by
  rw [decode_outcome]
  split
  · rename_i body found
    simp only [found, List.cons.injEq, and_true, exists_eq_left']
    cases decodeBody body <;> simp [Except.mapError]
  · rename_i others
    simp only [reduceCtorEq, false_iff, not_exists, not_and]
    intro body found
    exact absurd found (others body)

/-- Bodies give the same octets exactly if they differ in line breaks only. -/
theorem der_eq_iff (read : decodeBody body = .ok key) (read' : decodeBody body' = .ok key') :
    key.der = key'.der ↔ joinLines body = joinLines body' := by
  rw [(decodeBody_eq_ok_iff.1 read).1, (decodeBody_eq_ok_iff.1 read').1, Base64.text_inj]

end PrivateKey

namespace Chain
variable {n n' : Nat} {body body' : List Char} {c c' : Certificate}

/-- A body is read as a certificate exactly if it is the Base64 of the octets of the certificate. -/
theorem decodeBlock_eq_ok_iff :
    decodeBlock n body = .ok c ↔
      squeeze body = Base64.text c.der ∧ Certificate.ofDer? c.der = some c := by
  unfold decodeBlock
  constructor
  · intro h
    split at h
    · cases h
    rename_i der written
    split at h
    · rename_i read
      obtain rfl := Except.ok.inj h
      obtain rfl := Certificate.der_of_ofDer? read
      exact ⟨Base64.decode_encode_eq_ok_iff.1 written, read⟩
    · cases h
  · rintro ⟨written, read⟩
    simp only [Base64.decode_encode_eq_ok_iff.2 written, read]

/-- Blocks are read one by one: none is left out, and none is read twice. -/
theorem decodeBlocks_eq_ok_iff {bodies : List (List Char)} {cs : List Certificate} :
    decodeBlocks n bodies = .ok cs ↔
      bodies.map squeeze = cs.map (fun c => Base64.text c.der) ∧
        ∀ c ∈ cs, Certificate.ofDer? c.der = some c := by
  induction bodies generalizing n cs with
  | nil =>
    cases cs with
    | nil => simp [decodeBlocks]
    | cons c cs => simp [decodeBlocks]
  | cons body bodies ih =>
    have step : decodeBlocks n (body :: bodies) = .ok cs ↔
        ∃ c more, decodeBlock n body = .ok c ∧ decodeBlocks (n + 1) bodies = .ok more ∧
          c :: more = cs := by
      rw [decodeBlocks]
      cases decodeBlock n body with
      | error cause => simp [bind, Except.bind]
      | ok c =>
        cases decodeBlocks (n + 1) bodies with
        | error cause => simp [bind, Except.bind]
        | ok more => simp [bind, Except.bind, pure, Except.pure]
    rw [step]
    constructor
    · rintro ⟨c, more, first, others, rfl⟩
      obtain ⟨written, read⟩ := decodeBlock_eq_ok_iff.1 first
      obtain ⟨allWritten, allRead⟩ := ih.1 others
      exact ⟨by rw [List.map_cons, List.map_cons, written, allWritten],
        List.forall_mem_cons.2 ⟨read, allRead⟩⟩
    · rintro ⟨written, read⟩
      cases cs with
      | nil => cases written
      | cons c more =>
        obtain ⟨first, others⟩ := List.cons.inj written
        obtain ⟨firstRead, othersRead⟩ := List.forall_mem_cons.1 read
        exact ⟨c, more, decodeBlock_eq_ok_iff.2 ⟨first, firstRead⟩, ih.2 ⟨others, othersRead⟩, rfl⟩

/-- What a text is read as is decided by the bodies of its certificate blocks. -/
theorem decode_outcome (text : Octets) :
    (decode text).outcome =
      ((decodeBlocks 0 (Pem.certificateBodies (Utf8.decodeLossy text))).map Chain.mk).mapError
        .decode := by
  unfold decode
  cases decodeBlocks 0 (Pem.certificateBodies (Utf8.decodeLossy text)) <;> rfl

/-- A text is read as a chain exactly if the bodies of its blocks are the Base64 of the octets of
the certificates, in order. -/
theorem decode_eq_ok_iff {text : Octets} {chain : Chain} :
    (decode text).outcome = .ok chain ↔
      (Pem.certificateBodies (Utf8.decodeLossy text)).map squeeze = chain.ders.map Base64.text ∧
        ∀ c ∈ chain.certificates, Certificate.ofDer? c.der = some c := by
  have read : (decode text).outcome = .ok chain ↔
      decodeBlocks 0 (Pem.certificateBodies (Utf8.decodeLossy text)) = .ok chain.certificates := by
    rw [decode_outcome]
    cases decodeBlocks 0 (Pem.certificateBodies (Utf8.decodeLossy text)) with
    | error cause => exact ⟨nofun, nofun⟩
    | ok certificates =>
      change Except.ok (Chain.mk certificates) = .ok chain ↔ _
      rw [Except.ok.injEq, Except.ok.injEq]
      exact ⟨congrArg Chain.certificates, congrArg Chain.mk⟩
  rw [read, decodeBlocks_eq_ok_iff, ders, List.map_map]
  rfl

/-- Blocks give the same octets exactly if they differ in white space only. -/
theorem der_eq_iff (read : decodeBlock n body = .ok c) (read' : decodeBlock n' body' = .ok c') :
    c.der = c'.der ↔ squeeze body = squeeze body' := by
  rw [(decodeBlock_eq_ok_iff.1 read).1, (decodeBlock_eq_ok_iff.1 read').1, Base64.text_inj]

end Chain

/-- A text is read exactly if the bodies found in it, without line breaks or without white space,
are the Base64 of the octets that the key or the certificates keep. Two bodies that are read give
the same octets only where they differ in nothing else. -/
theorem bodies_are_written_forms :
    (∀ text key, (PrivateKey.decode text).outcome = .ok key ↔
      ∃ body, Pem.keyBodies (Utf8.decodeLossy text) = [body] ∧
        PrivateKey.joinLines body = Base64.text key.der ∧
        PrivateKey.ofPkcs8? key.der = some key) ∧
    (∀ text chain, (Chain.decode text).outcome = .ok chain ↔
      (Pem.certificateBodies (Utf8.decodeLossy text)).map Chain.squeeze =
        chain.ders.map Base64.text ∧
        ∀ c ∈ chain.certificates, Certificate.ofDer? c.der = some c) ∧
    (∀ body body' key key', PrivateKey.decodeBody body = .ok key →
      PrivateKey.decodeBody body' = .ok key' →
      (key.der = key'.der ↔ PrivateKey.joinLines body = PrivateKey.joinLines body')) ∧
    (∀ n n' body body' c c', Chain.decodeBlock n body = .ok c →
      Chain.decodeBlock n' body' = .ok c' →
      (c.der = c'.der ↔ Chain.squeeze body = Chain.squeeze body')) := by
  refine ⟨?_, ?_, ?_, ?_⟩
  · intro text key
    simp only [PrivateKey.decode_eq_ok_iff, PrivateKey.decodeBody_eq_ok_iff]
  · exact fun text chain => Chain.decode_eq_ok_iff
  · exact fun body body' key key' => PrivateKey.der_eq_iff
  · exact fun n n' body body' c c' => Chain.der_eq_iff

/-- One key over one line and over two, and two certificates that differ in their serial number. -/
theorem bodies_are_written_forms_serials :
    let document := PrivateKey.encodePkcs8 PrivateKey.tiny
    let key : PrivateKey := ⟨document, PrivateKey.tiny⟩
    let onLine := (PrivateKey.Block.onLine document).body
    let bare := (PrivateKey.Block.bare document).body
    let first := (CertificateBlock.least false).body
    let second := (CertificateBlock.least true).body
    ((PrivateKey.decode (PrivateKey.written PrivateKey.tiny)).outcome = .ok key ∧
      ∃ body, Pem.keyBodies (Utf8.decodeLossy (PrivateKey.written PrivateKey.tiny)) = [body] ∧
        PrivateKey.joinLines body = Base64.text document) ∧
    (PrivateKey.decodeBody onLine = .ok key ∧ PrivateKey.decodeBody bare = .ok key ∧
      PrivateKey.joinLines onLine = PrivateKey.joinLines bare) ∧
    (Chain.decodeBlock 0 first = .ok (.least 1) ∧ Chain.decodeBlock 1 second = .ok (.least 2) ∧
      Chain.squeeze first ≠ Chain.squeeze second) := by
  intro document key onLine bare first second
  have short : document.length ≤ Der.Strict.longest := by decide
  have consistent : PrivateKey.tiny.Consistent := by decide
  have whole := PrivateKey.decode_written short consistent
  have lines := PrivateKey.decodeBody_body consistent (if_pos short) (.onLine document)
  have line := PrivateKey.decodeBody_body consistent (if_pos short) (.bare document)
  have one := (CertificateBlock.least false).decodeBlock_body 0
  have two := (CertificateBlock.least true).decodeBlock_body 1
  obtain ⟨keys, -, keyBodies, certificateBodies⟩ := bodies_are_written_forms
  refine ⟨⟨whole, ?_⟩, ⟨lines, line, (keyBodies _ _ _ _ lines line).1 rfl⟩, one, two, ?_⟩
  · obtain ⟨body, found, joined, -⟩ := (keys _ _).1 whole
    exact ⟨body, found, joined⟩
  · intro same
    have equal := (certificateBodies _ _ _ _ _ _ one two).2 same
    exact absurd equal (by decide +kernel)

end CredentialRotation
