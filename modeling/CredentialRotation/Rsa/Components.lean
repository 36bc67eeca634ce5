/-!
The numbers of a two-prime RSA key: the relations between them, and the narrower conditions under
which a signer takes them.
-/
namespace CredentialRotation.Rsa

/-- The eight numbers of a private key. -/
structure Components where
  modulus : Nat
  publicExponent : Nat
  privateExponent : Nat
  p : Nat
  q : Nat
  exponentP : Nat
  exponentQ : Nat
  inverseQ : Nat
  deriving DecidableEq, Repr

/-- The binary digits of a number; zero has none. -/
def bitLength (n : Nat) : Nat :=
  if n = 0 then 0 else n.log2 + 1

namespace Components

/-- Modulus, exponents and factors belong together. The exponents of the factors and the inverse
are not looked at, nor whether the factors are prime. -/
structure Consistent (k : Components) : Prop where
  odd_modulus : k.modulus % 2 = 1
  odd_exponent : k.publicExponent % 2 = 1
  two_le_exponent : 2 ≤ k.publicExponent
  exponent_small : k.publicExponent < Nat.pow 2 33
  exponent_lt_modulus : k.publicExponent < k.modulus
  one_lt_p : 1 < k.p
  one_lt_q : 1 < k.q
  modulus_eq : k.p * k.q = k.modulus
  inverse_p : k.privateExponent * k.publicExponent % (k.p - 1) = 1
  inverse_q : k.privateExponent * k.publicExponent % (k.q - 1) = 1

instance (k : Components) : Decidable k.Consistent :=
  decidable_of_iff
    (k.modulus % 2 = 1 ∧ k.publicExponent % 2 = 1 ∧ 2 ≤ k.publicExponent ∧
      k.publicExponent < Nat.pow 2 33 ∧ k.publicExponent < k.modulus ∧ 1 < k.p ∧ 1 < k.q ∧
      k.p * k.q = k.modulus ∧ k.privateExponent * k.publicExponent % (k.p - 1) = 1 ∧
      k.privateExponent * k.publicExponent % (k.q - 1) = 1)
    ⟨fun ⟨a, b, c, d, e, f, g, h, i, j⟩ => ⟨a, b, c, d, e, f, g, h, i, j⟩,
     fun ⟨a, b, c, d, e, f, g, h, i, j⟩ => ⟨a, b, c, d, e, f, g, h, i, j⟩⟩

/-- The bits of each factor that a signer expects: half of the modulus, rounded up. -/
def halfBits (k : Components) : Nat :=
  (bitLength k.modulus + 1) / 2

/-- What a signer asks of a consistent key. -/
structure Signable (k : Components) : Prop where
  modulus_large : 2041 ≤ bitLength k.modulus
  modulus_small : bitLength k.modulus ≤ 4096
  exponent_large : 65537 ≤ k.publicExponent
  exponent_small : k.publicExponent < Nat.pow 2 33
  whole_words : k.halfBits % 512 = 0
  bits_p : bitLength k.p = k.halfBits
  bits_q : bitLength k.q = k.halfBits
  private_lt : k.privateExponent < k.modulus
  private_large : k.halfBits < bitLength k.privateExponent
  inverse_lt : k.inverseQ < k.p
  inverse_eq : k.inverseQ * k.q % k.p = 1
  exponentP_lt : k.exponentP < k.p
  exponentQ_lt : k.exponentQ < k.q
  exponentP_odd : k.exponentP % 2 = 1
  exponentQ_odd : k.exponentQ % 2 = 1

instance (k : Components) : Decidable k.Signable :=
  decidable_of_iff
    (2041 ≤ bitLength k.modulus ∧ bitLength k.modulus ≤ 4096 ∧ 65537 ≤ k.publicExponent ∧
      k.publicExponent < Nat.pow 2 33 ∧ k.halfBits % 512 = 0 ∧ bitLength k.p = k.halfBits ∧
      bitLength k.q = k.halfBits ∧ k.privateExponent < k.modulus ∧
      k.halfBits < bitLength k.privateExponent ∧ k.inverseQ < k.p ∧
      k.inverseQ * k.q % k.p = 1 ∧ k.exponentP < k.p ∧ k.exponentQ < k.q ∧
      k.exponentP % 2 = 1 ∧ k.exponentQ % 2 = 1)
    ⟨fun ⟨a, b, c, d, e, f, g, h, i, j, l, m, n, o, p⟩ =>
      ⟨a, b, c, d, e, f, g, h, i, j, l, m, n, o, p⟩,
     fun ⟨a, b, c, d, e, f, g, h, i, j, l, m, n, o, p⟩ =>
      ⟨a, b, c, d, e, f, g, h, i, j, l, m, n, o, p⟩⟩

/-- The exponents of the factors undo the public exponent, so that signatures come out right. A
signer checks each signature before it lets it go. -/
def signs (k : Components) : Bool :=
  k.publicExponent * k.exponentP % (k.p - 1) = 1 &&
    k.publicExponent * k.exponentQ % (k.q - 1) = 1

end Components
end CredentialRotation.Rsa
