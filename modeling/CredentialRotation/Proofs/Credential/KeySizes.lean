import CredentialRotation.Proofs.Credential.HeldSnapshot
import Mathlib.Data.Nat.Size

/-!
The sizes of keys that are published. A key is counted in whole octets and a signer counts in bits;
yet the size that is shown of a key that can sign is exactly that of its two factors together.
-/
namespace CredentialRotation

namespace Rsa

theorem bitLength_eq_size (n : Nat) : bitLength n = n.size := by
  by_cases zero : n = 0
  · rw [zero, Nat.size_zero]
    rfl
  · have low := Nat.lt_size.2 (Nat.log2_self_le zero)
    have high := Nat.size_le.2 (Nat.lt_log2_self (n := n))
    rw [bitLength, if_neg zero]
    omega

/-- The octets of a number are its bits, rounded up to eights. -/
theorem widthOf_eq_bitLength (n : Nat) : Octets.widthOf n = (bitLength n + 7) / 8 := by
  by_cases zero : n = 0
  · rw [zero]
    rfl
  · rw [Octets.widthOf, if_neg zero, bitLength, if_neg zero]
    omega

end Rsa

namespace PrivateKey

/-- The size that is shown of a key, and how it counts the bits of its numbers. -/
structure UsualSize (key : PrivateKey) : Prop where
  usual : key.modulusBits = 2048 ∨ key.modulusBits = 3072 ∨ key.modulusBits = 4096
  p : key.modulusBits = 2 * key.components.p.size
  q : key.modulusBits = 2 * key.components.q.size
  modulus : key.components.modulus.size = key.modulusBits ∨
    key.components.modulus.size = key.modulusBits - 1

variable {key : PrivateKey}

/-- Half of a modulus that a signer takes is two, three or four times 512 bits. So rounding up to
octets adds one bit at most, the one by which the product of the factors may fall short. -/
theorem usualSize_of_signable (signable : key.components.Signable) : key.UsualSize := by
  obtain ⟨large, small, -, -, words, bits_p, bits_q, -⟩ := signable
  have shown : key.modulusBits = 8 * ((Rsa.bitLength key.components.modulus + 7) / 8) := by
    rw [modulusBits, Rsa.widthOf_eq_bitLength]
  simp only [Rsa.Components.halfBits, Rsa.bitLength_eq_size] at large small words bits_p bits_q
  rw [Rsa.bitLength_eq_size] at shown
  have half : (key.components.modulus.size + 1) / 2 = 1024 ∨
      (key.components.modulus.size + 1) / 2 = 1536 ∨
      (key.components.modulus.size + 1) / 2 = 2048 := by
    omega
  refine ⟨?_, ?_, ?_, ?_⟩ <;> omega

theorem usualSize_of_canSign (signs : key.canSign = true) : key.UsualSize := by
  rw [canSign, Bool.and_eq_true] at signs
  exact usualSize_of_signable (of_decide_eq_true signs.2)

theorem canSign_of_signer {signer : Rsa.Components} (signs : key.signer = .ok signer) :
    key.canSign = true := by
  unfold PrivateKey.signer at signs
  split at signs
  next can => exact can
  next => cases signs

end PrivateKey

theorem Snapshot.Made.usualSize {s : Snapshot} (made : s.Made) : s.key.UsualSize :=
  PrivateKey.usualSize_of_canSign (PrivateKey.canSign_of_signer made.intact.signer)

namespace Stores
variable {κ ι : Type} [DecidableEq κ] [DecidableEq ι]

/-- A document that is read as a key, and that a signer takes, has one of the usual sizes. So has
the key of every snapshot that was ever put forward, wherever and however that was. -/
theorem published_sizes (files : ι → IdentityFiles) :
    (∀ der key signer, PrivateKey.ofPkcs8? der = some key → key.signer = .ok signer →
      key.UsualSize) ∧
    ∀ history (d : Stores κ ι), Run Step (start files) history d →
      (∀ k e s, e ∈ history → putForward? k e = some s → s.key.UsualSize) ∧
      ∀ k s, (d.stores k).snapshot? = some s → s.key.UsualSize := by
  constructor
  · intro der key signer _ signs
    exact PrivateKey.usualSize_of_canSign (PrivateKey.canSign_of_signer signs)
  · intro history d run
    constructor
    · intro k e s mem put
      obtain ⟨u, v, step⟩ := run.step_of_mem mem
      rw [putForward?] at put
      split at put
      next => exact (Served.made_of_snapshot? (bringsMade_of_step step) put).usualSize
      next => cases put
    · intro k s held
      exact (made_of_run run held).usualSize

/-- A key of 2048 bits, read from its document and published by a refresher. -/
theorem published_sizes_neighbours :
    ∃ history d, Run Step (start fun _ : Unit => pemFiles) history d ∧
      ∃ s, (d.stores ()).snapshot? = some s ∧
        PrivateKey.ofPkcs8? s.key.der = some s.key ∧ s.key.UsualSize ∧
        s.key.modulusBits = 2048 ∧ s.key.components.modulus.size = 2048 := by
  let start : Stores Unit Unit := start fun _ => pemFiles
  obtain ⟨answers, serves⟩ := (start.shared ()).exists_reload () (.neighbours ⟨1, 0⟩)
    (.least false ⟨1, 0⟩) (by decide) rfl
  have step := Step.served (d := start) (r := ⟨.tick (), answers, .ticked (.ok .reloaded)⟩) ()
    trivial serves
  have run := Run.cons step (.nil _)
  have read := PrivateKey.ofPkcs8?_encodePkcs8 PrivateKey.neighbours_short
    PrivateKey.neighbours_consistent
  have sizes := (published_sizes (κ := Unit) fun _ : Unit => pemFiles).2 _ _ run
  have whole : Rsa.bitLength PrivateKey.neighbours.modulus = 2048 := by decide +kernel
  have shown : 8 * Octets.widthOf PrivateKey.neighbours.modulus = 2048 := by
    rw [Rsa.widthOf_eq_bitLength, whole]
  exact ⟨_, _, run, _, rfl, read, sizes.2 () _ rfl, shown,
    (Rsa.bitLength_eq_size _).symm.trans whole⟩

end Stores
end CredentialRotation
