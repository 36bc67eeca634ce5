import CredentialRotation.Credential.Key
import CredentialRotation.Proofs.Pem.KeyBlocks
import CredentialRotation.Proofs.Rsa.PrivateKey
import CredentialRotation.Proofs.Text.Base64
import CredentialRotation.Proofs.Text.Spacing
import CredentialRotation.Proofs.Text.Utf8

/-!
Keys as they are written: a document in Base64 between two markers, over any number of lines, with
foreign octets around it. Reading gives back the key.
-/
namespace CredentialRotation.PrivateKey

theorem isBodyChar_text {c : Char} {bs : Octets} (h : c ∈ Base64.text bs) :
    Pem.isBodyChar c = true := by
  obtain ⟨b, mem, rfl⟩ := List.mem_map.1 h
  rcases Base64.mem_encode mem with rfl | ⟨v, hv, rfl⟩
  · decide
  · clear h mem
    decide +revert

/-- A document as it is written between markers, with line breaks anywhere in its Base64. -/
structure Block (der : Octets) where
  begins : Pem.KeyMarker "-----begin".toList
  ends : Pem.KeyMarker "-----end".toList
  body : List Char
  spaced : Spaced (Base64.text der) body
  breaks : ∀ c ∈ body, isAsciiBlank c = true → c = '\r' ∨ c = '\n'

namespace Block
variable {der : Octets}

def text (b : Block der) : List Char :=
  b.begins.text ++ (b.body ++ b.ends.text)

/-- The body is one that the search for key blocks takes. -/
def toPem (b : Block der) (nonempty : der ≠ []) : Pem.KeyBlock where
  begins := b.begins
  body := b.body
  ends := b.ends
  nonempty := b.spaced.ne_nil fun empty =>
    nonempty (Base64.encode_eq_nil_iff.1 (List.map_eq_nil_iff.1 empty))
  plain c mem := by
    rcases b.spaced.mem_or_blank mem with written | blank
    · exact isBodyChar_text written
    · rcases b.breaks c mem blank with rfl | rfl <;> rfl

/-- Without its line breaks the body is the Base64 of the document. -/
theorem joinLines_body (b : Block der) : joinLines b.body = Base64.text der := by
  apply b.spaced.filter_eq
  · intro c mem
    have solid := (Base64.text_plain mem).2
    rw [Bool.and_eq_true]
    constructor
    · apply decide_eq_true
      rintro rfl
      cases solid
    · apply decide_eq_true
      rintro rfl
      cases solid
  · intro c mem blank
    rcases b.breaks c mem blank with rfl | rfl <;> rfl

/-- A block with bare markers and no line breaks. -/
def bare (der : Octets) : Block der where
  begins := .bare "-----BEGIN".toList (by decide)
  ends := .bare "-----END".toList (by decide)
  body := Base64.text der
  spaced := Base64.spaced_text der
  breaks c mem blank := by
    rw [(Base64.text_plain mem).2] at blank
    cases blank

end Block

section Reading
variable {k : Rsa.Components} {der before after : Octets}

/-- Of all that stands in the text, exactly the block is taken for the key. -/
theorem keyBodies_block (block : Block der) (nonempty : der ≠ [])
    (ends : before = [] ∨ before.getLast? = some 10)
    (free : ¬ Pem.ContainsKeyWords (Utf8.decodeLossy before))
    (freeAfter : ¬ Pem.ContainsKeyWords (Utf8.decodeLossy after)) :
    Pem.keyBodies (Utf8.decodeLossy (before ++ (Utf8.encode block.text ++ after))) =
      [block.body] := by
  let pem := block.toPem nonempty
  have text : Utf8.decodeLossy (before ++ (Utf8.encode block.text ++ after)) =
      Utf8.decodeLossy before ++ (pem.text ++ Utf8.decodeLossy after) :=
    Utf8.decodeLossy_append_text pem.text_eq_cons before after
  rw [text, Pem.keyBodies_block pem free (Utf8.decodeLossy_ends ends),
    Pem.keyBodies_of_not_contains freeAfter]
  rfl

theorem decodeBody_body (consistent : k.Consistent) (document : document? k = some der)
    (block : Block der) : decodeBody block.body = .ok ⟨der, k⟩ := by
  obtain ⟨short, rfl⟩ := eq_of_document? document
  simp only [decodeBody, block.joinLines_body, Base64.encode_text, Base64.decode_encode,
    ofPkcs8?_encodePkcs8 short consistent]

theorem decode_block (consistent : k.Consistent) (document : document? k = some der)
    (block : Block der) (ends : before = [] ∨ before.getLast? = some 10)
    (free : ¬ Pem.ContainsKeyWords (Utf8.decodeLossy before))
    (freeAfter : ¬ Pem.ContainsKeyWords (Utf8.decodeLossy after)) :
    (decode (before ++ (Utf8.encode block.text ++ after))).outcome = .ok ⟨der, k⟩ := by
  have nonempty : der ≠ [] := by
    rw [(eq_of_document? document).2]
    exact List.cons_ne_nil _ _
  rw [decode, keyBodies_block block nonempty ends free freeAfter]
  simp only [decodeBody_body consistent document block]
  rfl

/-- Reading gives back the document of a key whose numbers belong together, whatever labels, line
breaks and foreign octets it was written with. -/
theorem decode_gives_document (consistent : k.Consistent) (document : document? k = some der)
    (block : Block der) (ends : before = [] ∨ before.getLast? = some 10)
    (free : ¬ Pem.ContainsKeyWords (Utf8.decodeLossy before))
    (freeAfter : ¬ Pem.ContainsKeyWords (Utf8.decodeLossy after)) :
    ∃ key, (decode (before ++ (Utf8.encode block.text ++ after))).outcome = .ok key ∧
      key.der = der ∧ key.components = k ∧
      key.modulusBits = 8 * (Octets.ofNat k.modulus).length := by
  refine ⟨_, decode_block consistent document block ends free freeAfter, rfl, rfl, ?_⟩
  rw [modulusBits, Octets.length_ofNat]

/-- The least numbers that belong together. -/
def tiny : Rsa.Components :=
  { modulus := 15, publicExponent := 3, privateExponent := 3, p := 3, q := 5, exponentP := 0,
    exponentQ := 0, inverseQ := 0 }

/-- A bare block whose Base64 starts on a line of its own. -/
def Block.onLine (der : Octets) : Block der :=
  { Block.bare der with
    body := '\r' :: '\n' :: Base64.text der
    spaced := .blank rfl (.blank rfl (Base64.spaced_text der))
    breaks := List.forall_mem_cons.2 ⟨fun _ => .inl rfl,
      List.forall_mem_cons.2 ⟨fun _ => .inr rfl, (Block.bare der).breaks⟩⟩ }

/-- A stray opening in front of the block, and PRIVATE without KEY behind it. -/
theorem decode_gives_document_tiny :
    ∃ key, (decode (Utf8.encode "-----BEGIN\n".toList ++
        (Utf8.encode (Block.onLine (encodePkcs8 tiny)).text ++
          Utf8.encode "\nPRIVATE\n".toList))).outcome = .ok key ∧
      key.der = encodePkcs8 tiny ∧ key.components = tiny ∧ key.modulusBits = 8 := by
  have document : document? tiny = some (encodePkcs8 tiny) := if_pos (by decide)
  have feed : (Utf8.encode "-----BEGIN\n".toList).getLast? = some 10 := by decide
  have free : ¬ Pem.ContainsKeyWords
      (Utf8.decodeLossy (Utf8.encode "-----BEGIN\n".toList)) := by
    rw [Utf8.decodeLossy_encode]
    decide
  have freeAfter : ¬ Pem.ContainsKeyWords
      (Utf8.decodeLossy (Utf8.encode "\nPRIVATE\n".toList)) := by
    rw [Utf8.decodeLossy_encode]
    decide
  obtain ⟨key, read, der, components, bits⟩ := decode_gives_document (by decide) document
    (Block.onLine (encodePkcs8 tiny)) (.inr feed) free freeAfter
  exact ⟨key, read, der, components, bits.trans (by decide)⟩

end Reading

/-- The text of a key with the given numbers. -/
def written (k : Rsa.Components) : Octets :=
  Utf8.encode (Block.bare (encodePkcs8 k)).text

/-- A key whose numbers belong together is read back from its text. -/
theorem decode_written {k : Rsa.Components} (short : (encodePkcs8 k).length ≤ Der.Strict.longest)
    (consistent : k.Consistent) :
    (decode (written k)).outcome = .ok ⟨encodePkcs8 k, k⟩ := by
  have free : ¬ Pem.ContainsKeyWords (Utf8.decodeLossy []) := by
    rw [Utf8.decodeLossy_nil]
    decide
  have read := decode_block consistent (if_pos short) (Block.bare (encodePkcs8 k)) (.inl rfl) free
    free
  rwa [List.nil_append, List.append_nil] at read

/-- Numbers that a signer takes. Their factors are two odd neighbours, for nobody asks whether they
are prime. -/
def neighbours : Rsa.Components :=
  let p := Nat.pow 2 1024 - 3
  let d := (1 + 21845 * ((p * p - 1) / 2)) / 65537
  { modulus := p * (p + 2)
    publicExponent := 65537
    privateExponent := d
    p := p
    q := p + 2
    exponentP := d % (p - 1)
    exponentQ := d % (p + 1)
    inverseQ := (p + 1) / 2 }

theorem neighbours_consistent : neighbours.Consistent := by
  decide +kernel

theorem neighbours_signable : neighbours.Signable := by
  decide +kernel

theorem neighbours_short : (encodePkcs8 neighbours).length ≤ Der.Strict.longest := by
  refine length_encodePkcs8_le (show 256 ≤ 1000000 by decide) ?_
  decide +kernel

end CredentialRotation.PrivateKey
