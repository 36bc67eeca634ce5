import CredentialRotation.Proofs.Der.Strict
import CredentialRotation.Rsa.PrivateKey

/-!
A private key that was written is read back. What is written has the plain form that a signer takes.
-/
namespace CredentialRotation.PrivateKey

open Der.Strict

variable {k : Rsa.Components}

/-- A key whose numbers take up to a million octets each is far from too long. -/
theorem length_encodePkcs8_le {width : Nat} (small : width ≤ 1000000)
    (numbers : ∀ n ∈ [k.modulus, k.publicExponent, k.privateExponent, k.p, k.q, k.exponentP,
      k.exponentQ, k.inverseQ], n < 256 ^ width) : (encodePkcs8 k).length ≤ longest := by
  have number {n : Nat} (h : n < 256 ^ width) : (encodeNatural n).length ≤ 1000007 :=
    (length_encodeNatural_le h (by omega)).trans (by omega)
  simp only [List.forall_mem_cons] at numbers
  obtain ⟨modulus, publicExponent, privateExponent, p, q, exponentP, exponentQ, inverseQ, -⟩ :=
    numbers
  have version : (encodeNatural 0).length = 3 := rfl
  have algorithm : (encode sequenceTag algorithmContent).length = 15 := rfl
  have components : (encodeComponents k).length ≤ 8000065 := by
    have := number modulus
    have := number publicExponent
    have := number privateExponent
    have := number p
    have := number q
    have := number exponentP
    have := number exponentQ
    have := number inverseQ
    rw [encodeComponents]
    refine (length_encode_le sequenceTag ?_).trans ?_ <;>
      simp only [List.length_append] <;> omega
  have key : (encode octetStringTag (encodeComponents k)).length ≤ 8000071 :=
    (length_encode_le octetStringTag (by omega)).trans (by omega)
  rw [encodePkcs8]
  refine (length_encode_le sequenceTag ?_).trans ?_ <;>
    simp only [List.length_append, longest] <;> omega

theorem readComponents?_encodeComponents (h : (encodeComponents k).length < 256 ^ 4) :
    readComponents? (encodeComponents k) = some k := by
  rw [encodeComponents] at h ⊢
  have inside := (length_lt_encode sequenceTag _).trans h
  rw [readComponents?, whole?_encode (by decide) inside]
  simp only [List.length_append] at inside
  rw [← List.append_nil (encodeNatural k.inverseQ)]
  simp only [List.append_assoc]
  dsimp only [Option.bind_eq_bind]
  rw [Option.bind_some]
  iterate 9
    rw [natural?_encodeNatural (by omega), Option.bind_some]
    dsimp only
  rfl

theorem unwrap?_encodePkcs8 (h : (encodePkcs8 k).length < 256 ^ 4) :
    unwrap? (encodePkcs8 k) = some (0, encodeComponents k, []) := by
  rw [encodePkcs8] at h ⊢
  have inside := (length_lt_encode sequenceTag _).trans h
  rw [unwrap?, whole?_encode (by decide) inside]
  simp only [List.length_append] at inside
  have algorithm := length_lt_encode sequenceTag algorithmContent
  have key := length_lt_encode octetStringTag (encodeComponents k)
  rw [← List.append_nil (encode octetStringTag (encodeComponents k))]
  simp only [List.append_assoc]
  dsimp only [Option.bind_eq_bind]
  rw [Option.bind_some, natural?_encodeNatural (by omega), Option.bind_some]
  dsimp only
  rw [expect?_encode (by decide) (by omega), Option.bind_some]
  dsimp only
  rw [expect?_encode (by decide) (by omega)]
  rfl

/-- A key whose numbers belong together is read back from what was written, octets and all. -/
theorem ofPkcs8?_encodePkcs8 (short : (encodePkcs8 k).length ≤ longest)
    (consistent : k.Consistent) : ofPkcs8? (encodePkcs8 k) = some ⟨encodePkcs8 k, k⟩ := by
  have h := lt_of_le_longest short
  have inside : (encodeComponents k).length < 256 ^ 4 := by
    have key := length_lt_encode octetStringTag (encodeComponents k)
    rw [encodePkcs8] at h
    have whole := (length_lt_encode sequenceTag _).trans h
    simp only [List.length_append] at whole
    omega
  have bare : hasPublicKey? [] = some false := by
    rw [hasPublicKey?]
    rfl
  rw [ofPkcs8?, if_neg (Nat.not_lt.2 short), unwrap?_encodePkcs8 h]
  simp only [Option.bind_eq_bind, Option.bind_some, bare, readComponents?_encodeComponents inside,
    if_pos consistent]
  rfl

/-- Whatever is read as a key keeps its octets and has numbers that belong together. -/
theorem kept_of_ofPkcs8? {der : Octets} {key : PrivateKey} (read : ofPkcs8? der = some key) :
    key.der = der ∧ key.components.Consistent := by
  rw [ofPkcs8?] at read
  split at read
  next => cases read
  next =>
    simp only [Option.bind_eq_bind, Option.bind_eq_some_iff] at read
    obtain ⟨⟨version, content, extra⟩, -, hasKey, -, rest⟩ := read
    split at rest
    next => cases rest
    next =>
      obtain ⟨components, -, found⟩ := Option.bind_eq_some_iff.1 rest
      split at found
      next consistent =>
        obtain rfl := Option.some.inj found
        exact ⟨rfl, consistent⟩
      next => cases found

theorem consistent_of_ofPkcs8? {der : Octets} {key : PrivateKey} (read : ofPkcs8? der = some key) :
    key.components.Consistent :=
  (kept_of_ofPkcs8? read).2

theorem isPlainForm_encodePkcs8 (short : (encodePkcs8 k).length ≤ longest) :
    isPlainForm (encodePkcs8 k) = true := by
  rw [isPlainForm, unwrap?_encodePkcs8 (lt_of_le_longest short)]
  rfl

/-- Written numbers make a key that can sign as soon as a signer takes the numbers. -/
theorem canSign_encodePkcs8 (short : (encodePkcs8 k).length ≤ longest) (signable : k.Signable) :
    canSign ⟨encodePkcs8 k, k⟩ = true := by
  rw [canSign, isPlainForm_encodePkcs8 short, decide_eq_true signable]
  rfl

/-- The document of some numbers is their encoding. -/
theorem eq_of_document? {der : Octets} (document : document? k = some der) :
    (encodePkcs8 k).length ≤ longest ∧ der = encodePkcs8 k := by
  rw [document?] at document
  split at document
  · rename_i short
    exact ⟨short, (Option.some.inj document).symm⟩
  · cases document

end CredentialRotation.PrivateKey
