import CredentialRotation.Proofs.Credential.WrittenForms
import CredentialRotation.Proofs.Pem.CertificateScan
import Mathlib.Data.List.Forall2

/-!
How the reading of a chain ends. The blocks are read in order, and the first bad one alone decides
with what the reading fails.
-/
namespace CredentialRotation.Chain

/-- Without white space the body is the Base64 of the octets of the certificate. -/
def ReadsAs (body : List Char) (c : Certificate) : Prop :=
  squeeze body = Base64.text c.der ∧ Certificate.ofDer? c.der = some c

/-- What is wrong with the body of the block that has this number. Its octets are looked at only
where there is nothing wrong with its Base64. -/
inductive Fails (block : Nat) (body : List Char) : DecodeFailure → Prop
  | base64 {fault : Base64.Fault} (unwritten : ∀ der, squeeze body ≠ Base64.text der)
    (found : Base64.decode (Utf8.encode (squeeze body)) = .error fault) :
    Fails block body (.certificateBase64 block fault)
  | octets {der : Octets} (written : squeeze body = Base64.text der)
    (refused : Certificate.ofDer? der = none) : Fails block body (.certificateBlock block)

section Wording

/-- The message of a failure in a block: the number of the block, then what went wrong in it. -/
def messageInBlock (block : Nat) (stage : String) : String :=
  "Failed to decode PEM content: certificate block " ++ toString block ++ ": " ++ stage

private theorem message_of_stage {cause : DecodeFailure} {block : Nat} {stage : String}
    (worded : cause.message = "certificate block " ++ toString block ++ ": " ++ stage) :
    (CredentialFailure.decode cause).message = messageInBlock block stage := by
  have context : "Failed to decode PEM content: certificate block " =
      "Failed to decode PEM content: " ++ "certificate block " := by decide +kernel
  change "Failed to decode PEM content: " ++ cause.message = _
  rw [worded]
  unfold messageInBlock
  rw [context]
  simp only [String.append_assoc]

theorem certificateBase64_message (block : Nat) (fault : Base64.Fault) :
    (CredentialFailure.decode (.certificateBase64 block fault)).message =
      messageInBlock block ("invalid Base64: " ++ fault.message) := by
  have colon : ": invalid Base64: " = ": " ++ "invalid Base64: " := by decide +kernel
  refine message_of_stage ?_
  change "certificate block " ++ toString block ++ ": invalid Base64: " ++ fault.message = _
  rw [colon]
  simp only [String.append_assoc]

theorem certificateBlock_message (block : Nat) :
    (CredentialFailure.decode (.certificateBlock block)).message =
      messageInBlock block "invalid certificate encoding" := by
  have colon : ": invalid certificate encoding" = ": " ++ "invalid certificate encoding" := by
    decide +kernel
  refine message_of_stage ?_
  change "certificate block " ++ toString block ++ ": invalid certificate encoding" = _
  rw [colon]
  simp only [String.append_assoc]

end Wording

section Blocks
variable {n : Nat} {body : List Char} {bodies : List (List Char)} {cause : DecodeFailure}
  {cs : List Certificate}

theorem decodeBlock_eq_error_iff : decodeBlock n body = .error cause ↔ Fails n body cause := by
  unfold decodeBlock
  split
  · rename_i fault found
    constructor
    · intro h
      obtain rfl := Except.error.inj h
      refine .base64 (fun der written => ?_) found
      rw [Base64.decode_encode_eq_ok_iff.2 written] at found
      cases found
    · rintro (⟨-, found'⟩ | ⟨written, -⟩)
      · rw [Except.error.inj (found.symm.trans found')]
      · rw [Base64.decode_encode_eq_ok_iff.2 written] at found
        cases found
  · rename_i der decoded
    have written := Base64.decode_encode_eq_ok_iff.1 decoded
    split
    · rename_i c accepted
      constructor
      · exact nofun
      · rintro (⟨unwritten, -⟩ | ⟨written', refused⟩)
        · exact absurd written (unwritten der)
        · rw [Base64.text_inj.1 (written'.symm.trans written), accepted] at refused
          cases refused
    · rename_i refused
      constructor
      · intro h
        obtain rfl := Except.error.inj h
        exact .octets written refused
      · rintro (⟨unwritten, -⟩ | ⟨-, -⟩)
        · exact absurd written (unwritten der)
        · rfl

theorem decodeBlocks_eq_ok_iff_forall₂ :
    decodeBlocks n bodies = .ok cs ↔ List.Forall₂ ReadsAs bodies cs := by
  rw [decodeBlocks_eq_ok_iff]
  induction bodies generalizing cs with
  | nil => cases cs <;> simp
  | cons body bodies ih =>
    cases cs with
    | nil => simp
    | cons c cs =>
      rw [List.forall₂_cons, ← ih, List.map_cons, List.map_cons, List.cons.injEq,
        List.forall_mem_cons, ReadsAs]
      exact and_and_and_comm

/-- Bodies are read together exactly if each of them is. -/
theorem exists_readsAs_iff :
    (∃ cs, List.Forall₂ ReadsAs bodies cs) ↔ ∀ body ∈ bodies, ∃ c, ReadsAs body c := by
  induction bodies with
  | nil => simp
  | cons body bodies ih =>
    rw [List.forall_mem_cons, ← ih]
    constructor
    · rintro ⟨_, _ | ⟨first, others⟩⟩
      exact ⟨⟨_, first⟩, _, others⟩
    · rintro ⟨⟨c, first⟩, cs, others⟩
      exact ⟨c :: cs, .cons first others⟩

/-- Either the first block is bad, or it is read and a later one is bad. -/
private theorem decodeBlocks_cons_eq_error_iff :
    decodeBlocks n (body :: bodies) = .error cause ↔
      Fails n body cause ∨
        (∃ c, ReadsAs body c) ∧ decodeBlocks (n + 1) bodies = .error cause := by
  have read {c : Certificate} : decodeBlock n body = .ok c ↔ ReadsAs body c :=
    decodeBlock_eq_ok_iff
  simp only [← decodeBlock_eq_error_iff, ← read, decodeBlocks]
  cases decodeBlock n body with
  | error other => simp [bind, Except.bind]
  | ok c => cases decodeBlocks (n + 1) bodies <;> simp [bind, Except.bind, pure, Except.pure]

/-- The reading fails with what is wrong with the first bad block, whatever stands behind it. -/
theorem decodeBlocks_eq_error_iff :
    decodeBlocks n bodies = .error cause ↔
      ∃ before body after, bodies = before ++ body :: after ∧
        (∀ b ∈ before, ∃ c, ReadsAs b c) ∧ Fails (n + before.length) body cause := by
  induction bodies generalizing n with
  | nil => simp [decodeBlocks]
  | cons first bodies ih =>
    rw [decodeBlocks_cons_eq_error_iff, ih]
    constructor
    · rintro (fails | ⟨reads, before, body, after, rfl, readable, fails⟩)
      · exact ⟨[], first, bodies, rfl, List.forall_mem_nil _, fails⟩
      · rw [Nat.add_assoc, Nat.add_comm 1] at fails
        exact ⟨first :: before, body, after, rfl, List.forall_mem_cons.2 ⟨reads, readable⟩, fails⟩
    · rintro ⟨before, body, after, joined, readable, fails⟩
      cases before with
      | nil =>
        obtain ⟨rfl, rfl⟩ := List.cons.inj joined
        exact .inl fails
      | cons b before =>
        obtain ⟨rfl, rfl⟩ := List.cons.inj joined
        obtain ⟨reads, readable⟩ := List.forall_mem_cons.1 readable
        refine .inr ⟨reads, before, body, after, rfl, readable, ?_⟩
        rwa [Nat.add_assoc, Nat.add_comm 1]

end Blocks

section Texts
variable {text : Octets}

theorem decode_eq_ok_iff_forall₂ {chain : Chain} :
    (decode text).outcome = .ok chain ↔
      List.Forall₂ ReadsAs (Pem.certificateBodies (Utf8.decodeLossy text)) chain.certificates := by
  rw [← decodeBlocks_eq_ok_iff_forall₂ (n := 0), decode_outcome]
  cases decodeBlocks 0 (Pem.certificateBodies (Utf8.decodeLossy text)) with
  | error cause => exact ⟨nofun, nofun⟩
  | ok certificates =>
    change Except.ok (Chain.mk certificates) = .ok chain ↔ _
    rw [Except.ok.injEq, Except.ok.injEq]
    exact ⟨congrArg Chain.certificates, congrArg Chain.mk⟩

theorem decode_eq_error_iff {failure : CredentialFailure} :
    (decode text).outcome = .error failure ↔
      ∃ before body after cause,
        Pem.certificateBodies (Utf8.decodeLossy text) = before ++ body :: after ∧
        (∀ b ∈ before, ∃ c, ReadsAs b c) ∧ Fails before.length body cause ∧
        failure = .decode cause := by
  have failed : (decode text).outcome = .error failure ↔
      ∃ cause, decodeBlocks 0 (Pem.certificateBodies (Utf8.decodeLossy text)) = .error cause ∧
        failure = .decode cause := by
    rw [decode_outcome]
    cases decodeBlocks 0 (Pem.certificateBodies (Utf8.decodeLossy text)) with
    | error cause => simp [Except.map, Except.mapError, eq_comm]
    | ok certificates => simp [Except.map, Except.mapError]
  simp only [failed, decodeBlocks_eq_error_iff, Nat.zero_add]
  constructor
  · rintro ⟨cause, ⟨before, body, after, found, readable, fails⟩, rfl⟩
    exact ⟨before, body, after, cause, found, readable, fails, rfl⟩
  · rintro ⟨before, body, after, cause, found, readable, fails, rfl⟩
    exact ⟨cause, ⟨before, body, after, found, readable, fails⟩, rfl⟩

/-- A text is read as a chain exactly if each of its blocks is read, and then has one certificate
for each block, in order. Otherwise the message names the first block that is not read and the stage
at which it fails, and the blocks behind it do not matter. -/
theorem chain_or_first_bad_block (text : Octets) :
    ∃ bodies,
      (∀ found, Scan Pem.certificatePattern.At (Utf8.decodeLossy text) found ↔ found = bodies) ∧
      ((∃ chain, (decode text).outcome = .ok chain) ↔ ∀ body ∈ bodies, ∃ c, ReadsAs body c) ∧
      (∀ chain, (decode text).outcome = .ok chain ↔
        List.Forall₂ ReadsAs bodies chain.certificates) ∧
      (∀ failure, (decode text).outcome = .error failure ↔
        ∃ before body after cause, bodies = before ++ body :: after ∧
          (∀ b ∈ before, ∃ c, ReadsAs b c) ∧ Fails before.length body cause ∧
          failure = .decode cause) ∧
      (∀ block fault, (CredentialFailure.decode (.certificateBase64 block fault)).message =
        messageInBlock block ("invalid Base64: " ++ fault.message)) ∧
      ∀ block, (CredentialFailure.decode (.certificateBlock block)).message =
        messageInBlock block "invalid certificate encoding" := by
  refine ⟨_, fun _ => Pem.scan_certificatePattern_iff, ?_, fun _ => decode_eq_ok_iff_forall₂,
    fun _ => decode_eq_error_iff, certificateBase64_message, certificateBlock_message⟩
  rw [← exists_readsAs_iff]
  constructor
  · rintro ⟨chain, read⟩
    exact ⟨chain.certificates, decode_eq_ok_iff_forall₂.1 read⟩
  · rintro ⟨certificates, reads⟩
    exact ⟨⟨certificates⟩, decode_eq_ok_iff_forall₂.2 reads⟩

end Texts
end CredentialRotation.Chain
