import CredentialRotation.Octets

/-!
The distinguished encoding: one octet of tag, and a length in as few octets as it needs. Reading
accepts exactly what writing produces, element by element.
-/
namespace CredentialRotation.Der.Strict

/-- The most octets that a document may have. -/
def longest : Nat := 0xfffffff

/-- Splits off `n` octets. -/
def take? (n : Nat) (bs : Octets) : Option (Octets × Octets) :=
  if n ≤ bs.length then some (bs.splitAt n) else none

/-- A length below 128 takes one octet, others the count of their octets first. -/
def length? : Octets → Option (Nat × Octets)
  | [] => none
  | b :: rest =>
    if b.toNat < 128 then some (b.toNat, rest)
    else if b.toNat = 128 ∨ b.toNat > 132 then none
    else do
      let (octets, rest) ← take? (b.toNat - 128) rest
      let n := octets.toNat
      if n < 128 ∨ octets.head? = some 0 then none
      else some (n, rest)

/-- The tag, the content and what follows. Tags of several octets are refused. -/
def element? : Octets → Option (UInt8 × Octets × Octets)
  | [] => none
  | tag :: rest => do
    if tag.toNat % 32 = 31 then none
    let (n, rest) ← length? rest
    let (content, rest) ← take? n rest
    return (tag, content, rest)

theorem take?_length {n : Nat} {bs content rest : Octets}
    (h : take? n bs = some (content, rest)) : rest.length ≤ bs.length := by
  simp only [take?] at h
  split at h
  · simp only [List.splitAt_eq, Option.some.injEq, Prod.mk.injEq] at h
    simp [← h.2]
  · simp at h

theorem length?_length {bs rest : Octets} {n : Nat} (h : length? bs = some (n, rest)) :
    rest.length ≤ bs.length := by
  cases bs with
  | nil => simp [length?] at h
  | cons b bs =>
    simp only [length?] at h
    split at h
    · simp_all
    · split at h
      · simp at h
      · simp only [Option.bind_eq_bind, Option.bind_eq_some_iff] at h
        obtain ⟨⟨octets, left⟩, h₁, h₂⟩ := h
        have := take?_length h₁
        split at h₂
        · simp at h₂
        · simp only [Option.some.injEq, Prod.mk.injEq] at h₂
          simp [← h₂.2]
          omega

theorem element?_length {bs content rest : Octets} {tag : UInt8}
    (h : element? bs = some (tag, content, rest)) : rest.length < bs.length := by
  cases bs with
  | nil => simp [element?] at h
  | cons b bs =>
    simp only [element?] at h
    split at h
    · simp at h
    · simp only [Option.bind_eq_bind, Option.bind_eq_some_iff] at h
      obtain ⟨⟨n, left⟩, h₁, ⟨c, r⟩, h₂, h₃⟩ := h
      have h₂ : take? n left = some (c, r) := h₂
      have := length?_length h₁
      have := take?_length h₂
      simp only [pure, Option.some.injEq, Prod.mk.injEq] at h₃
      simp [← h₃.2.2]
      omega

/-- The content of the element in front, which has the given tag, and what follows it. -/
def expect? (tag : UInt8) (bs : Octets) : Option (Octets × Octets) := do
  let (found, content, rest) ← element? bs
  if found = tag then some (content, rest) else none

/-- The content of an element with the given tag that nothing follows. -/
def whole? (tag : UInt8) (bs : Octets) : Option Octets := do
  let (content, rest) ← expect? tag bs
  if rest.isEmpty then some content else none

/-- The tags of the common types. -/
def integerTag : UInt8 := 2
def bitStringTag : UInt8 := 3
def octetStringTag : UInt8 := 4
def sequenceTag : UInt8 := 0x30

/-- A non-negative INTEGER in its shortest form. -/
def natural? (bs : Octets) : Option (Nat × Octets) := do
  let (content, rest) ← expect? integerTag bs
  match content with
  | [] => none
  | [b] => if b.toNat < 128 then some (b.toNat, rest) else none
  | a :: b :: _ =>
    if a.toNat ≥ 128 ∨ (a = 0 ∧ b.toNat < 128) then none else some (content.toNat, rest)

/-- Writes a length. -/
def encodeLength (n : Nat) : Octets :=
  if n < 128 then [UInt8.ofNat n]
  else UInt8.ofNat (128 + Octets.widthOf n) :: Octets.ofNat n

/-- Writes an element. -/
def encode (tag : UInt8) (content : Octets) : Octets :=
  tag :: encodeLength content.length ++ content

/-- Writes a non-negative INTEGER; a zero octet keeps a high first bit from being a sign. -/
def encodeNatural (n : Nat) : Octets :=
  let octets := Octets.ofNat n
  let signed := (octets.head?.map UInt8.toNat).getD 128 ≥ 128
  encode integerTag (if signed then 0 :: octets else octets)

end CredentialRotation.Der.Strict
