import CredentialRotation.Proofs.Der.Strict
import CredentialRotation.Proofs.Der.Written
import CredentialRotation.X509.Certificate

/-!
The parts of certificates as they are written: algorithms, keys, and what a certificate may have or
not. A part that was written is read, and one that is missing leaves what stands behind it.
-/
namespace CredentialRotation.X509.Written

open Der (Held Reader Reads)
open Der.Lenient (headerOf reads_element reads_within)
open Der.Strict (encode encodeNatural sequenceTag integerTag bitStringTag octetStringTag)

/-- An identifier with parameters or without them; these may be any one element. -/
structure Algorithm where
  id : Oid
  parameters : Option Octets
  one : ∀ p ∈ parameters, Der.Lenient.IsOneElement p

namespace Algorithm
variable {a : Algorithm}

def octets (a : Algorithm) : Octets :=
  encode sequenceTag (encode 6 a.id.content ++ a.parameters.getD [])

theorem reads (held : Held a.octets) : Reads Certificate.algorithm a.octets a.id := by
  have inside := held.content
  intro rest
  refine (reads_element (by decide) inside).step ?_
  let e : Der.Element := ⟨headerOf 6 a.id.content.length, a.id.content⟩
  have id : Der.Lenient.element (encode 6 a.id.content ++ a.parameters.getD []) =
      some (e, a.parameters.getD []) :=
    reads_element (by decide) inside.left.content _
  refine Reader.bind_eq_some_iff.2 ⟨(e, a.parameters.getD []), rest, ?_, ?_⟩
  · change (liftM (Der.Lenient.element _) : Reader _) rest = _
    rw [id]
    rfl
  · obtain ⟨id, parameters, one⟩ := a
    cases parameters with
    | none => rfl
    | some p =>
      obtain ⟨e, whole⟩ := Der.Lenient.isOneElement_iff.1 (one p rfl)
      obtain ⟨opens, -⟩ := Der.Lenient.element_eq_some_iff.1 whole
      simp only [Option.getD_some, opens, whole, Option.isNone_some, Bool.false_eq_true, and_false,
        if_false]
      rfl

end Algorithm

/-- Bits in whole octets, of which the last may have some that are not used and are zero. -/
structure BitString where
  bits : Octets
  unused : Nat
  few : unused < 8
  empty : bits = [] → unused = 0
  zero : ∀ last ∈ bits.getLast?, last.toNat % 2 ^ unused = 0

namespace BitString
variable {b : BitString}

def content (b : BitString) : Octets := UInt8.ofNat b.unused :: b.bits

def octets (b : BitString) : Octets := encode bitStringTag b.content

theorem le_trailingZeros {last : UInt8} {n : Nat} (few : n < 8) (zero : last.toNat % 2 ^ n = 0) :
    n ≤ Certificate.trailingZeros last := by
  have clear : ∀ i ∈ List.range n, (!last.toNat.testBit i) = true := by
    intro i mem
    have bit := Nat.testBit_mod_two_pow last.toNat n i
    rw [zero, decide_eq_true (List.mem_range.1 mem), Nat.zero_testBit, Bool.true_and] at bit
    rw [← bit, Bool.not_false]
  have parts : List.range 8 = List.range n ++ (List.range (8 - n)).map (n + ·) := by
    rw [← List.range_add, Nat.add_sub_of_le few.le]
  rw [Certificate.trailingZeros, parts, List.takeWhile_append_of_pos clear, List.length_append,
    List.length_range]
  exact Nat.le_add_right _ _

theorem bits?_content (b : BitString) (h : Der.Header) :
    Certificate.bits? ⟨h, b.content⟩ = some b.bits := by
  obtain ⟨bits, unused, few, empty, zero⟩ := b
  cases bits with
  | nil =>
    obtain rfl := empty rfl
    rfl
  | cons first others =>
    have read : (UInt8.ofNat unused).toNat = unused := by
      rw [UInt8.toNat_ofNat', Nat.mod_eq_of_lt (by omega)]
    obtain ⟨last, ends⟩ : ∃ last, (first :: others).getLast? = some last :=
      ⟨_, List.getLast?_eq_some_getLast (List.cons_ne_nil _ _)⟩
    have enough := le_trailingZeros few (zero last ends)
    simp only [Certificate.bits?, content, ends, Option.map_some, Option.getD_some, read]
    exact if_neg (Nat.not_lt.2 enough)

theorem reads (held : Held b.octets) : Reads Certificate.bitString b.octets b.bits := by
  intro rest
  refine (reads_element (by decide) held.content).step ?_
  simp only [bits?_content]
  rfl

end BitString

/-- A public key, with what it is a key of. -/
structure KeyInfo where
  algorithm : Algorithm
  key : BitString

namespace KeyInfo
variable {k : KeyInfo}

def octets (k : KeyInfo) : Octets := encode sequenceTag (k.algorithm.octets ++ k.key.octets)

/-- The kind that a key is told to be, by its identifier and its octets. -/
def kind (k : KeyInfo) : KeyAlgorithm :=
  if k.algorithm.id = Certificate.rsaEncryption then
    if Certificate.isRsaKey k.key.bits then .rsa else .unknown
  else if k.algorithm.id = Certificate.ecPublicKey then .ec
  else .unknown

theorem reads (held : Held k.octets) : Reads Certificate.publicKey k.octets k.kind := by
  have inside := held.content
  refine reads_within rfl (by decide) inside ?_
  refine (Algorithm.reads inside.left).step ((BitString.reads inside.right).finish ?_)
  unfold kind
  split_ifs <;> rfl

/-- A key of two integers is told to be of RSA where its identifier says so. -/
theorem kind_eq_rsa {n e : Octets} (id : k.algorithm.id = Certificate.rsaEncryption)
    (key : k.key.bits = encode sequenceTag (encode integerTag n ++ encode integerTag e))
    (held : Held k.key.bits) : k.kind = .rsa := by
  rw [key] at held
  have inside := held.content
  have read : Certificate.isRsaKey k.key.bits = true := by
    rw [key]
    refine Option.isSome_iff_exists.2 ⟨((), []), (reads_within rfl (by decide) inside ?_).last⟩
    exact (reads_element (by decide) inside.left.content).step
      ((reads_element (by decide) inside.right.content).finish rfl)
  rw [kind, if_pos id, if_pos read]

end KeyInfo

section Parts

/-- The optional version, of which only the number matters, and that not to what is read. -/
def versionOctets : Option Nat → Octets
  | none => []
  | some v => encode 0xa0 (encodeNatural v)

variable {serial content rest : Octets}

theorem isVersion_encodeNatural {v : Nat} (small : v < 2 ^ 32) (held : Held (encodeNatural v)) :
    ∃ e, Der.Lenient.element (encodeNatural v) = some (e, []) ∧ Certificate.isVersion e = true := by
  obtain ⟨content, written, value, shape⟩ := Der.Strict.encodeNatural_eq v
  rw [written] at held ⊢
  refine ⟨_, (reads_element (by decide) held.content).last, ?_⟩
  rcases shape with ⟨b, rfl, low⟩ | ⟨a, b, others, rfl, low, shortest⟩
  · change decide (b.toNat < 128) = true
    exact decide_eq_true low
  · have bounded : Octets.toNat (a :: b :: others) < Nat.pow 2 32 := value ▸ small
    have shortest' : a.toNat ≠ 0 ∨ 128 ≤ b.toNat := by
      by_cases zero : a = 0
      · exact .inr (shortest zero)
      · exact .inl fun same => zero (UInt8.toNat_inj.1 same)
    change (decide (a.toNat < 128) && (decide (a.toNat ≠ 0) || decide (128 ≤ b.toNat)) &&
      decide (Octets.toNat (a :: b :: others) < Nat.pow 2 32)) = true
    simp only [Bool.and_eq_true, Bool.or_eq_true, decide_eq_true_eq]
    exact ⟨⟨low, shortest'⟩, bounded⟩

/-- A version is read where there is one, and otherwise nothing. -/
theorem version_written {version : Option Nat} (small : ∀ v ∈ version, v < 2 ^ 32)
    (held : Held (versionOctets version)) (heldSerial : Held serial) :
    Certificate.version (versionOctets version ++ (encode integerTag serial ++ rest)) =
      some ((), encode integerTag serial ++ rest) := by
  cases version with
  | none =>
    have opens : Der.Lenient.header (encode integerTag serial ++ rest) =
        some (headerOf integerTag serial.length, serial ++ rest) :=
      Der.Lenient.header_encode (by decide) heldSerial rest
    rw [versionOctets, List.nil_append, Certificate.version, opens]
    rfl
  | some v =>
    obtain ⟨e, inner, accepted⟩ := isVersion_encodeNatural (small v rfl) held.content
    have opens : Der.Lenient.header (versionOctets (some v) ++ (encode integerTag serial ++ rest)) =
        some (headerOf 0xa0 (encodeNatural v).length, encodeNatural v ++ _) :=
      Der.Lenient.header_encode (by decide) held.content _
    have outer : Der.Lenient.element (versionOctets (some v) ++ (encode integerTag serial ++ rest)) =
        some (⟨headerOf 0xa0 (encodeNatural v).length, encodeNatural v⟩, _) :=
      reads_element (by decide) held.content _
    refine Option.bind_eq_some_iff.2 ⟨_, opens, ?_⟩
    refine Option.bind_eq_some_iff.2 ⟨_, outer, ?_⟩
    refine Option.bind_eq_some_iff.2 ⟨_, inner, ?_⟩
    exact if_pos accepted

theorem reads_serialNumber (held : Held serial) :
    Reads Certificate.serialNumber (encode integerTag serial) serial := by
  intro rest
  exact (Der.Lenient.reads_elementOrMarked (by decide) held (by decide)).step rfl

end Parts

/-- An extension may hold anything. -/
structure Extension where
  id : Oid
  isCritical : Bool
  value : Octets

namespace Extension
variable {e : Extension}

/-- What says that an extension is critical; nothing says that it is not. -/
def criticalOctets (isCritical : Bool) : Octets :=
  if isCritical then encode 1 [0xff] else []

def octets (e : Extension) : Octets :=
  encode sequenceTag (encode 6 e.id.content ++
    (criticalOctets e.isCritical ++ encode octetStringTag e.value))

theorem critical_written (isCritical : Bool) {value : Octets} (held : Held value) :
    Certificate.critical (criticalOctets isCritical ++ encode octetStringTag value) =
      some ((), encode octetStringTag value) := by
  cases isCritical with
  | true =>
    have opens : Der.Lenient.header (encode 1 [0xff] ++ encode octetStringTag value) =
        some (headerOf 1 1, 0xff :: encode octetStringTag value) :=
      Der.Lenient.header_encode (by decide) (by decide : ([0xff] : Octets).length < 2 ^ 64) _
    rw [criticalOctets, if_pos rfl, Certificate.critical, opens]
    rfl
  | false =>
    have opens := Der.Lenient.header_encode_last (by decide : octetStringTag.toNat % 32 ≠ 31) held
    rw [criticalOctets, if_neg Bool.false_ne_true, List.nil_append, Certificate.critical, opens]
    rfl

theorem reads (held : Held e.octets) : Reads Certificate.extension e.octets () := by
  have inside := held.content
  refine reads_within rfl (by decide) inside ?_
  refine (reads_element (by decide) inside.left.content).step ?_
  have value := inside.right.right.content
  exact Reader.bind_eq_some_iff.2
    ⟨(), _, critical_written e.isCritical value, (reads_element (by decide) value).finish rfl⟩

end Extension

section Tail
variable {bs rest : Octets} {number : Nat} {tag : UInt8} {id : Option BitString}
  {extensions : Option (List Extension)}

/-- A unique identifier under its tag. -/
def uniqueIdOctets (tag : UInt8) : Option BitString → Octets
  | none => []
  | some b => encode tag b.content

def extensionsOctets : Option (List Extension) → Octets
  | none => []
  | some es => encode 0xa3 (encode sequenceTag (es.flatMap Extension.octets))

/-- No element with this tag number stands in front. -/
def Lacks (number : Nat) (bs : Octets) : Prop :=
  ∀ h left, Der.Lenient.header bs = some (h, left) → h.tag ≠ number

theorem lacks_nil (number : Nat) : Lacks number [] := nofun

theorem lacks_encode {content : Octets} (low : tag.toNat % 32 ≠ 31)
    (other : tag.toNat % 32 ≠ number) (held : Held content) :
    Lacks number (encode tag content ++ rest) := by
  intro h left opens
  rw [Der.Lenient.header_encode low held] at opens
  cases opens
  exact other

theorem lacks_extensions (other : 3 ≠ number) (held : Held (extensionsOctets extensions)) :
    Lacks number (extensionsOctets extensions) := by
  cases extensions with
  | none => exact lacks_nil number
  | some es =>
    intro h left opens
    rw [extensionsOctets, Der.Lenient.header_encode_last (by decide) held.content] at opens
    cases opens
    exact other

/-- A unique identifier is passed over, if it is there; what stands behind it is never taken for
one. -/
theorem uniqueId_written (tagged : tag.toNat = 0x80 + number) (low : number < 31)
    (held : Held (uniqueIdOctets tag id)) (other : Lacks number rest) :
    Certificate.uniqueId number (uniqueIdOctets tag id ++ rest) = some ((), rest) := by
  cases id with
  | none =>
    rw [uniqueIdOctets, List.nil_append, Certificate.uniqueId]
    cases opens : Der.Lenient.header rest with
    | none => rfl
    | some p =>
      obtain ⟨h, left⟩ := p
      exact if_neg fun same => other h left opens same.2
  | some b =>
    have inside : Held b.content := held.content
    have number_eq : tag.toNat % 32 = number := by omega
    have short : tag.toNat % 32 ≠ 31 := by omega
    have form : (headerOf tag b.content.length).tagClass = .contextSpecific ∧
        !(headerOf tag b.content.length).constructed ∧
        (Certificate.bits? ⟨headerOf tag b.content.length, b.content⟩).isSome := by
      have high : tag.toNat / 64 = 2 := by omega
      have primitive : tag.toNat / 32 % 2 = 0 := by omega
      simp [headerOf, Der.Lenient.classOf, high, primitive, b.bits?_content]
    rw [uniqueIdOctets, Certificate.uniqueId, Der.Lenient.header_encode short inside]
    refine (if_pos ⟨rfl, number_eq⟩).trans ?_
    rw [reads_element short inside rest]
    exact if_pos form

theorem extensions_written (held : Held (extensionsOctets extensions)) :
    Certificate.extensions (extensionsOctets extensions) = some ((), []) := by
  cases extensions with
  | none => rfl
  | some es =>
    have inside := held.content
    have items := inside.content
    have opens := Der.Lenient.header_encode_last (by decide : (0xa3 : UInt8).toNat % 32 ≠ 31) inside
    have list := (reads_element (by decide : sequenceTag.toNat % 32 ≠ 31) items).last
    have all := Der.Lenient.many_written
      (fun (e : Extension) mem => Extension.reads (items.of_mem mem)) rfl
    refine Option.bind_eq_some_iff.2 ⟨_, opens, ?_⟩
    refine Option.bind_eq_some_iff.2 ⟨_, list, ?_⟩
    exact if_pos (congrArg Prod.snd all)

/-- The reader of what may stand behind the public key. -/
def tail : Reader Unit := do
  Certificate.uniqueId 1
  Certificate.uniqueId 2
  Certificate.extensions

/-- What may stand behind the public key is passed over, whichever parts of it are there. -/
theorem tail_written {issuerId subjectId : Option BitString}
    (held : Held (uniqueIdOctets 0x81 issuerId ++
      (uniqueIdOctets 0x82 subjectId ++ extensionsOctets extensions))) :
    tail (uniqueIdOctets 0x81 issuerId ++
      (uniqueIdOctets 0x82 subjectId ++ extensionsOctets extensions)) = some ((), []) := by
  obtain ⟨issuer, behind⟩ := held.split
  obtain ⟨subject, last⟩ := behind.split
  have noSubject : Lacks 2 (extensionsOctets extensions) := lacks_extensions (by decide) last
  have noIssuer : Lacks 1 (uniqueIdOctets 0x82 subjectId ++ extensionsOctets extensions) := by
    cases subjectId with
    | some b => exact lacks_encode (by decide) (by decide) subject.content
    | none => exact lacks_extensions (by decide) last
  exact Reader.bind_eq_some_iff.2 ⟨(), _, uniqueId_written rfl (by decide) issuer noIssuer,
    Reader.bind_eq_some_iff.2 ⟨(), _, uniqueId_written rfl (by decide) subject noSubject,
      extensions_written last⟩⟩

end Tail

end CredentialRotation.X509.Written
