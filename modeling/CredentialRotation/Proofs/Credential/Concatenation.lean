import CredentialRotation.Proofs.Credential.BlockFailures
import CredentialRotation.Proofs.Pem.CertificateSeams

/-!
Files of certificates that are put one behind the other. Each is read as by itself, and only the
numbers of the blocks are shifted by the blocks in front.
-/
namespace CredentialRotation

/-- No block is open behind the last block of a bundle. -/
theorem Bundle.behindBlocks_octets (bundle : Bundle) :
    Pem.behindBlocks (Utf8.decodeLossy bundle.octets) = Utf8.decodeLossy bundle.tail := by
  obtain ⟨sections, tail, tail_free⟩ := bundle
  induction sections with
  | nil => exact Pem.behindBlocks_of_not_contains tail_free
  | cons s sections ih =>
    obtain ⟨separator, block⟩ := s
    simp only [octets, List.flatMap_cons, List.append_assoc] at ih ⊢
    rw [block.decodeLossy_append, CertificateBlock.text, List.append_assoc, List.append_assoc,
      Pem.behindBlocks_block block.begins block.ends separator.free separator.decodeLossy_ends
        block.hyphen_not_mem_body, ih]

namespace Chain

/-- What is wrong with a block is as wrong behind others. -/
theorem Fails.behind {block : Nat} {body : List Char} {cause : DecodeFailure}
    (h : Fails block body cause) (n : Nat) :
    (∃ fault, cause = .certificateBase64 block fault ∧
        Fails (n + block) body (.certificateBase64 (n + block) fault)) ∨
      (cause = .certificateBlock block ∧ Fails (n + block) body (.certificateBlock (n + block))) := by
  cases h with
  | base64 unwritten found => exact .inl ⟨_, rfl, .base64 unwritten found⟩
  | octets written refused => exact .inr ⟨rfl, .octets written refused⟩

section Seams
variable {a b : Octets}

/-- The blocks of two texts are those of the one and those of the other. -/
theorem certificateBodies_append (ends : a = [] ∨ a.getLast? = some 10)
    (closed : ¬ Pem.ContainsMarker "-----begin ".toList
      (Pem.behindBlocks (Utf8.decodeLossy a))) (b : Octets) :
    Pem.certificateBodies (Utf8.decodeLossy (a ++ b)) =
      Pem.certificateBodies (Utf8.decodeLossy a) ++
        Pem.certificateBodies (Utf8.decodeLossy b) := by
  rw [Utf8.decodeLossy_append_of_ends ends, Pem.certificateBodies_append_of_closed closed
    (.of_feed (Utf8.decodeLossy_ends ends))]

/-- Two texts, of which the first ends a line and leaves no block open, are read one behind the
other: the first failure is that of the whole, worded alike but with its block counted from the
start of the whole, and without one the chain of the second follows that of the first. -/
theorem chains_are_concatenated (ends : a = [] ∨ a.getLast? = some 10)
    (closed : ¬ Pem.ContainsMarker "-----begin ".toList
      (Pem.behindBlocks (Utf8.decodeLossy a))) :
    (∀ failure, (decode a).outcome = .error failure →
      (decode (a ++ b)).outcome = .error failure) ∧
    ∀ chain, (decode a).outcome = .ok chain →
      (∀ chain', (decode b).outcome = .ok chain' →
        (decode (a ++ b)).outcome = .ok ⟨chain.certificates ++ chain'.certificates⟩) ∧
      ∀ failure, (decode b).outcome = .error failure →
        ∃ j stage whole, (decode (a ++ b)).outcome = .error whole ∧
          failure.message = messageInBlock j stage ∧
          whole.message = messageInBlock (chain.size + j) stage ∧
          ((∃ fault, failure = .decode (.certificateBase64 j fault) ∧
              whole = .decode (.certificateBase64 (chain.size + j) fault)) ∨
            failure = .decode (.certificateBlock j) ∧
              whole = .decode (.certificateBlock (chain.size + j))) := by
  have bodies := certificateBodies_append ends closed b
  refine ⟨fun failure failed => ?_, fun chain read =>
    ⟨fun chain' read' => ?_, fun failure failed => ?_⟩⟩
  · obtain ⟨before, body, after, cause, found, readable, fails, rfl⟩ :=
      decode_eq_error_iff.1 failed
    refine decode_eq_error_iff.2 ⟨before, body,
      after ++ Pem.certificateBodies (Utf8.decodeLossy b), cause, ?_, readable, fails, rfl⟩
    rw [bodies, found, List.append_assoc, List.cons_append]
  · rw [decode_eq_ok_iff_forall₂, bodies]
    exact List.rel_append (decode_eq_ok_iff_forall₂.1 read) (decode_eq_ok_iff_forall₂.1 read')
  · obtain ⟨before, body, after, cause, found, readable, fails, rfl⟩ :=
      decode_eq_error_iff.1 failed
    have reads := decode_eq_ok_iff_forall₂.1 read
    have readable' : ∀ body ∈ Pem.certificateBodies (Utf8.decodeLossy a) ++ before,
        ∃ c, ReadsAs body c :=
      List.forall_mem_append.2 ⟨exists_readsAs_iff.1 ⟨_, reads⟩, readable⟩
    have count : (Pem.certificateBodies (Utf8.decodeLossy a) ++ before).length =
        chain.size + before.length := by
      rw [List.length_append, reads.length_eq, size]
    have whole {cause : DecodeFailure} (fails : Fails (chain.size + before.length) body cause) :
        (decode (a ++ b)).outcome = .error (.decode cause) := by
      refine decode_eq_error_iff.2 ⟨_, body, after, cause, ?_, readable', count ▸ fails, rfl⟩
      rw [bodies, found, List.append_assoc]
    rcases fails.behind chain.size with ⟨fault, rfl, later⟩ | ⟨rfl, later⟩
    · exact ⟨_, _, _, whole later, certificateBase64_message _ fault,
        certificateBase64_message _ fault, .inl ⟨fault, rfl, rfl⟩⟩
    · exact ⟨_, _, _, whole later, certificateBlock_message _, certificateBlock_message _,
        .inr ⟨rfl, rfl⟩⟩

end Seams

/-- A certificate on lines of its own. -/
def ownLines (block : CertificateBlock) : Bundle where
  sections := [(.lineFeed, block)]
  tail := [10]
  tail_free := Separator.lineFeed.free

/-- The text of a block that lacks its padding. -/
def unpadded : List Char :=
  Pem.bareBegin.text ++ ("AA".toList ++ Pem.bareEnd.text)

theorem decode_unpadded :
    (decode (Utf8.encode unpadded)).outcome =
      .error (.decode (.certificateBase64 0 .invalidPadding)) := by
  have found : Pem.certificateBodies (Utf8.decodeLossy (Utf8.encode unpadded)) =
      ["AA".toList] := by
    have block : Pem.certificateBodies
        ([] ++ (Pem.bareBegin.text ++ ("AA".toList ++ (Pem.bareEnd.text ++ [])))) =
          "AA".toList :: Pem.certificateBodies [] :=
      Pem.certificateBodies_block _ _ Pem.not_containsMarker_nil (.inl rfl) (by decide)
    rw [Pem.certificateBodies_of_not_contains Pem.not_containsMarker_nil] at block
    rwa [Utf8.decodeLossy_encode, unpadded, ← List.append_nil Pem.bareEnd.text,
      ← List.nil_append (Pem.bareBegin.text ++ _)]
  rw [decode_outcome, found]
  rfl

/-- Behind a certificate the bad block is the second one, and the message says so. -/
theorem chains_are_concatenated_unpadded :
    let a := (ownLines (.least false)).octets
    (a = [] ∨ a.getLast? = some 10) ∧
      ¬ Pem.ContainsMarker "-----begin ".toList (Pem.behindBlocks (Utf8.decodeLossy a)) ∧
      (decode a).outcome = .ok ⟨[.least 1]⟩ ∧
      (decode (Utf8.encode unpadded)).outcome =
        .error (.decode (.certificateBase64 0 .invalidPadding)) ∧
      ∃ whole, (decode (a ++ Utf8.encode unpadded)).outcome = .error whole ∧
        whole = .decode (.certificateBase64 1 .invalidPadding) ∧
        whole.message =
          "Failed to decode PEM content: certificate block 1: invalid Base64: Invalid padding" := by
  intro a
  have ends : a = [] ∨ a.getLast? = some 10 := .inr List.getLast?_concat
  have closed : ¬ Pem.ContainsMarker "-----begin ".toList
      (Pem.behindBlocks (Utf8.decodeLossy a)) := by
    rw [Bundle.behindBlocks_octets]
    exact Separator.lineFeed.free
  have read : (decode a).outcome = .ok ⟨[.least 1]⟩ := (ownLines (.least false)).decode_outcome
  refine ⟨ends, closed, read, decode_unpadded, ?_⟩
  obtain ⟨j, stage, whole, failed, -, -, ⟨fault, same, rfl⟩ | ⟨other, -⟩⟩ :=
    ((chains_are_concatenated ends closed).2 _ read).2 _ decode_unpadded
  · cases same
    exact ⟨_, failed, rfl, by decide +kernel⟩
  · cases other

end Chain
end CredentialRotation
