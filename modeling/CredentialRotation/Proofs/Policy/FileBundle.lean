import CredentialRotation.Policy.Bundle
import CredentialRotation.Proofs.Credential.BlockFailures
import CredentialRotation.Proofs.Credential.Bundle
import CredentialRotation.Proofs.Credential.Loading

/-!
Trust bundles in files. Asked for its roots, a file gives the anchor of each of its certificates, in
order, or it gives none and the failure says why.
-/
namespace CredentialRotation

section Anchors
variable {convert : AnchorConversion} {chain : Chain} {anchors : List Trust.Anchor}
  {refuse : Certificate → Trust.Failure → CredentialFailure} {failure : CredentialFailure}

/-- These are the anchors of these certificates, one for each and in the same order. -/
def Stand (convert : AnchorConversion) (certificates : List Certificate)
    (anchors : List Trust.Anchor) : Prop :=
  List.Forall₂ (fun c anchor => convert c.der = .ok anchor) certificates anchors

/-- There is a first certificate without an anchor, and the conversion refuses it for this cause. -/
def FirstRefused (convert : AnchorConversion) (certificates : List Certificate) (c : Certificate)
    (cause : Trust.Failure) : Prop :=
  ∃ before after, certificates = before ++ c :: after ∧
    (∀ b ∈ before, ∃ anchor, convert b.der = .ok anchor) ∧ convert c.der = .error cause

theorem exists_stand_iff {certificates : List Certificate} :
    (∃ anchors, Stand convert certificates anchors) ↔
      ∀ c ∈ certificates, ∃ anchor, convert c.der = .ok anchor := by
  induction certificates with
  | nil => exact iff_of_true ⟨[], .nil⟩ nofun
  | cons c certificates ih =>
    rw [List.forall_mem_cons, ← ih]
    constructor
    · rintro ⟨_, _ | ⟨first, others⟩⟩
      exact ⟨⟨_, first⟩, _, others⟩
    · rintro ⟨⟨anchor, first⟩, anchors, others⟩
      exact ⟨anchor :: anchors, .cons first others⟩

namespace Chain

theorem anchorsBy_eq_ok_iff :
    chain.anchorsBy convert refuse = .ok anchors ↔ Stand convert chain.certificates anchors := by
  simp only [anchorsBy, mapM_eq_ok_iff, mapError_eq_ok_iff, Stand]

theorem anchorsBy_eq_error_iff :
    chain.anchorsBy convert refuse = .error failure ↔
      ∃ c cause, FirstRefused convert chain.certificates c cause ∧ failure = refuse c cause := by
  simp only [anchorsBy, mapM_eq_error_iff, FirstFails, mapError_eq_ok_iff, mapError_eq_error_iff]
  constructor
  · rintro ⟨before, c, after, split, usable, cause, refused, rfl⟩
    exact ⟨c, cause, ⟨before, after, split, usable, refused⟩, rfl⟩
  · rintro ⟨c, cause, ⟨before, after, split, usable, refused⟩, rfl⟩
    exact ⟨before, c, after, split, usable, cause, refused, rfl⟩

end Chain
end Anchors

namespace BundleSupplier
variable {convert : AnchorConversion} {path : String} {text : Octets} {fs : FileSystem}
  {anchors : List Trust.Anchor} {failure : CredentialFailure} {cause : BundleFailure}

/-- A text gives these roots: all of its certificates stand for one each, and there are some. -/
def Gives (convert : AnchorConversion) (text : Octets) (anchors : List Trust.Anchor) : Prop :=
  ∃ chain, (Chain.decode text).outcome = .ok chain ∧ chain.certificates ≠ [] ∧
    Stand convert chain.certificates anchors

/-- Why the text of a file gives no roots. -/
inductive Refused (convert : AnchorConversion) (path : String) (text : Octets) :
    BundleFailure → Prop
  | undecodable {cause : DecodeFailure}
      (fails : (Chain.decode text).outcome = .error (.decode cause)) :
    Refused convert path text (.undecodable path cause)
  | unusable {chain : Chain} {c : Certificate} {cause : Trust.Failure}
      (read : (Chain.decode text).outcome = .ok chain)
      (refused : FirstRefused convert chain.certificates c cause) :
    Refused convert path text (.unusable path c.serialText)
  | empty (read : (Chain.decode text).outcome = .ok ⟨[]⟩) : Refused convert path text (.empty path)

theorem unusable_message (path serial : String) :
    (CredentialFailure.trustBundle (.unusable path serial)).message =
      "Failed to load trust bundle: " ++ path ++ ": serial " ++ serial := by
  change "Failed to load trust bundle: " ++ (path ++ ": serial " ++ serial) = _
  simp only [String.append_assoc]

/-- Whatever is wrong with the text, the message names the path. -/
theorem Refused.message (refused : Refused convert path text cause) :
    ∃ detail, (CredentialFailure.trustBundle cause).message =
      "Failed to load trust bundle: " ++ path ++ ": " ++ detail := by
  cases refused with
  | @undecodable cause =>
    refine ⟨cause.inContext, ?_⟩
    change "Failed to load trust bundle: " ++ (path ++ ": " ++ cause.inContext) = _
    simp only [String.append_assoc]
  | @unusable _ c =>
    refine ⟨"serial " ++ c.serialText, ?_⟩
    have colon : ": serial " = ": " ++ "serial " := by decide +kernel
    rw [unusable_message, colon]
    simp only [String.append_assoc]
  | empty =>
    refine ⟨"no certificates found", ?_⟩
    have colon : ": no certificates found" = ": " ++ "no certificates found" := by decide +kernel
    change "Failed to load trust bundle: " ++ (path ++ ": no certificates found") = _
    rw [colon]
    simp only [String.append_assoc]

theorem Gives.outcome (gives : Gives convert text anchors) (path : String) :
    (ofContents convert path text).outcome = .ok anchors := by
  obtain ⟨chain, read, nonempty, stand⟩ := gives
  rw [ofContents, Attempt.outcome_bind, Attempt.outcome_tryCatch, read]
  simp only [Except.bind, Chain.anchorsBy_eq_ok_iff.2 stand]
  cases anchors with
  | nil => exact absurd (List.forall₂_nil_right_iff.1 stand) nonempty
  | cons anchor others => rfl

theorem Refused.outcome (refused : Refused convert path text cause) :
    (ofContents convert path text).outcome = .error (.trustBundle cause) := by
  rw [ofContents, Attempt.outcome_bind, Attempt.outcome_tryCatch]
  cases refused with
  | undecodable fails =>
    rw [fails]
    rfl
  | unusable read refused =>
    rw [read]
    simp only [Except.bind, Chain.anchorsBy_eq_error_iff.2 ⟨_, _, refused, rfl⟩]
    rfl
  | empty read =>
    rw [read]
    rfl

theorem gives_or_refused (convert : AnchorConversion) (path : String) (text : Octets) :
    (∃ anchors, Gives convert text anchors) ∨ ∃ cause, Refused convert path text cause := by
  cases read : (Chain.decode text).outcome with
  | error failure =>
    obtain ⟨_, _, _, cause, -, -, -, rfl⟩ := Chain.decode_eq_error_iff.1 read
    exact .inr ⟨_, .undecodable read⟩
  | ok chain =>
    let refuse (c : Certificate) (_ : Trust.Failure) : CredentialFailure :=
      .trustBundle (.unusable path c.serialText)
    cases converted : chain.anchorsBy convert refuse with
    | error failure =>
      obtain ⟨c, cause, refused, -⟩ := Chain.anchorsBy_eq_error_iff.1 converted
      exact .inr ⟨_, .unusable read refused⟩
    | ok anchors =>
      have stand := Chain.anchorsBy_eq_ok_iff.1 converted
      obtain ⟨certificates⟩ := chain
      cases certificates with
      | nil => exact .inr ⟨_, .empty read⟩
      | cons c others => exact .inl ⟨anchors, _, read, List.cons_ne_nil _ _, stand⟩

theorem ofContents_eq_ok_iff :
    (ofContents convert path text).outcome = .ok anchors ↔ Gives convert text anchors := by
  refine ⟨fun ok => ?_, fun gives => gives.outcome path⟩
  rcases gives_or_refused convert path text with ⟨others, gives⟩ | ⟨cause, refused⟩
  · rwa [Except.ok.inj (ok.symm.trans (gives.outcome path))]
  · cases ok.symm.trans refused.outcome

theorem ofContents_eq_error_iff :
    (ofContents convert path text).outcome = .error failure ↔
      ∃ cause, Refused convert path text cause ∧ failure = .trustBundle cause := by
  constructor
  · intro error
    rcases gives_or_refused convert path text with ⟨anchors, gives⟩ | ⟨cause, refused⟩
    · cases error.symm.trans (gives.outcome path)
    · exact ⟨cause, refused, Except.error.inj (error.symm.trans refused.outcome)⟩
  · rintro ⟨cause, refused, rfl⟩
    exact refused.outcome

section Files
variable {anchors : List Trust.Anchor}

theorem ofFileBy_eq_ok_iff :
    (ofFileBy convert path fs).outcome = .ok anchors ↔
      ∃ text, fs.read path = .ok text ∧ Gives convert text anchors := by
  unfold ofFileBy
  cases fs.read path with
  | error cause => exact iff_of_false nofun nofun
  | ok text => simp [ofContents_eq_ok_iff]

theorem ofFileBy_eq_error_iff :
    (ofFileBy convert path fs).outcome = .error failure ↔
      (∃ cause, fs.read path = .error cause ∧ failure = .io path cause) ∨
        ∃ text cause, fs.read path = .ok text ∧ Refused convert path text cause ∧
          failure = .trustBundle cause := by
  unfold ofFileBy
  cases fs.read path with
  | error cause =>
    change Except.error (CredentialFailure.io path cause) = Except.error failure ↔ _
    simp [eq_comm]
  | ok text => simp [ofContents_eq_error_iff]

/-- Only a certificate without an anchor keeps the certificates of a file from giving roots. -/
theorem exists_ofFileBy_eq_ok_iff :
    (∃ anchors, (ofFileBy convert path fs).outcome = .ok anchors) ↔
      ∃ text chain, fs.read path = .ok text ∧ (Chain.decode text).outcome = .ok chain ∧
        chain.certificates ≠ [] ∧
        ∀ c ∈ chain.certificates, ∃ anchor, convert c.der = .ok anchor := by
  simp only [ofFileBy_eq_ok_iff, ← exists_stand_iff]
  constructor
  · rintro ⟨anchors, text, contents, chain, read, nonempty, stand⟩
    exact ⟨text, chain, contents, read, nonempty, anchors, stand⟩
  · rintro ⟨text, chain, contents, read, nonempty, anchors, stand⟩
    exact ⟨anchors, text, contents, chain, read, nonempty, stand⟩

/-- A file that gives roots at all gives at least one. -/
theorem ofFile_ne_nil (gives : (ofFile path fs).outcome = .ok anchors) : anchors ≠ [] := by
  obtain ⟨text, -, chain, -, nonempty, stand⟩ := ofFileBy_eq_ok_iff.1 gives
  rintro rfl
  exact nonempty (List.forall₂_nil_right_iff.1 stand)

/-- With any conversion, a file is a bundle of all its certificates or of none. It gives roots
exactly if its text, as it is then, is read as at least one certificate and each of them stands for
a root, and then it gives these, in order. Otherwise either the file could not be read, or the
failure names the path and, where a certificate stands for no root, the serial of the first such. -/
theorem all_certificates_or_none (convert : AnchorConversion) (path : String) :
    (∀ fs anchors, (ofFileBy convert path fs).outcome = .ok anchors ↔
      ∃ text, fs.read path = .ok text ∧ Gives convert text anchors) ∧
    (∀ fs, (∃ anchors, (ofFileBy convert path fs).outcome = .ok anchors) ↔
      ∃ text chain, fs.read path = .ok text ∧ (Chain.decode text).outcome = .ok chain ∧
        chain.certificates ≠ [] ∧
        ∀ c ∈ chain.certificates, ∃ anchor, convert c.der = .ok anchor) ∧
    (∀ fs failure, (ofFileBy convert path fs).outcome = .error failure ↔
      (∃ cause, fs.read path = .error cause ∧ failure = .io path cause) ∨
        ∃ text cause, fs.read path = .ok text ∧ Refused convert path text cause ∧
          failure = .trustBundle cause) ∧
    (∀ text cause, Refused convert path text cause →
      ∃ detail, (CredentialFailure.trustBundle cause).message =
        "Failed to load trust bundle: " ++ path ++ ": " ++ detail) ∧
    (∀ serial, (CredentialFailure.trustBundle (.unusable path serial)).message =
      "Failed to load trust bundle: " ++ path ++ ": serial " ++ serial) ∧
    ∃ answer : Except FileFailure Octets → Attempt (List Trust.Anchor),
      ∀ fs, ofFileBy convert path fs = answer (fs.read path) :=
  ⟨fun _ _ => ofFileBy_eq_ok_iff, fun _ => exists_ofFileBy_eq_ok_iff,
    fun _ _ => ofFileBy_eq_error_iff, fun _ _ refused => refused.message, unusable_message path,
    fun contents => ofFileBy convert path ⟨fun _ => .error .notFound, fun _ => contents⟩,
    fun _ => rfl⟩

/-- A file with a certificate twice gives its root twice. With the same certificate and an octet
behind it, it gives none, although both are certificates of a chain. -/
theorem all_certificates_or_none_twice :
    let accepted := Certificate.ofDer?_leastDer 1 (by decide)
    let block := CertificateBlock.bare _ _ accepted
    let longer := CertificateBlock.bare _ _ (Certificate.ofDer?_append accepted [0])
    let standing (bundle : Bundle) : FileSystem := ⟨fun _ => .ok ⟨0, 0⟩, fun _ => .ok bundle.octets⟩
    let anchor : Trust.Anchor := ⟨[], [48, 4, 6, 2, 42, 3, 3, 1, 0], none⟩
    (ofFileBy Trust.Anchor.ofDer "roots.pem" (standing (.lines [block, block]))).outcome =
        .ok [anchor, anchor] ∧
      (ofFileBy Trust.Anchor.ofDer "roots.pem" (standing (.lines [block, longer]))).outcome =
        .error (.trustBundle (.unusable "roots.pem" "01")) := by
  intro accepted block longer standing anchor
  obtain ⟨gives, -, fails, -⟩ := all_certificates_or_none Trust.Anchor.ofDer "roots.pem"
  have converts : (Trust.Anchor.ofDer (Certificate.leastDer 1)).toOption = some anchor := by
    decide +kernel
  have stands : Trust.Anchor.ofDer (Certificate.leastDer 1) = .ok anchor :=
    eq_ok_of_toOption converts
  constructor
  · exact (gives _ _).2 ⟨_, rfl, _, Bundle.decode_outcome _, List.cons_ne_nil _ _,
      .cons stands (.cons stands .nil)⟩
  · have unconverted : (Trust.Anchor.ofDer (Certificate.leastDer 1 ++ [0])).toOption = none := by
      decide +kernel
    obtain ⟨cause, refused⟩ := exists_eq_error_of_toOption unconverted
    have first : FirstRefused Trust.Anchor.ofDer [block.certificate, longer.certificate]
        longer.certificate cause :=
      ⟨[_], [], rfl, by simpa using ⟨anchor, stands⟩, refused⟩
    exact (fails _ _).2 (.inr ⟨_, _, rfl, .unusable (Bundle.decode_outcome _) first, rfl⟩)

end Files

end BundleSupplier
end CredentialRotation
