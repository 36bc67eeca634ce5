import CredentialRotation.Der.Strict
import CredentialRotation.Proofs.Octets

/-!
The distinguished encoding is read back to what was written, whatever follows it. Only lengths that
take more than four octets are out of reach.
-/
namespace CredentialRotation.Der.Strict

variable {tag : UInt8} {content rest : Octets} {n : Nat}

@[simp] theorem take?_append (content rest : Octets) :
    take? content.length (content ++ rest) = some (content, rest) := by
  rw [take?, if_pos (by simp), List.splitAt_eq, List.take_left, List.drop_left]

/-- What fits into a document has a length of no more than four octets. -/
theorem lt_of_le_longest (h : n ≤ longest) : n < 256 ^ 4 :=
  h.trans_lt (by decide)

/-- A length is read back if it takes no more than four octets. -/
theorem length?_encodeLength (h : n < 256 ^ 4) (rest : Octets) :
    length? (encodeLength n ++ rest) = some (n, rest) := by
  by_cases short : n < 128
  · have octet : (UInt8.ofNat n).toNat = n := by
      rw [UInt8.toNat_ofNat', Nat.mod_eq_of_lt (by omega)]
    rw [encodeLength, if_pos short, List.singleton_append, length?, octet, if_pos short]
  · obtain ⟨first, others, octets, nonzero⟩ := Octets.exists_ofNat_eq_cons (n := n) (by omega)
    have width : Octets.widthOf n ≤ 4 := Octets.widthOf_le h
    have positive : 0 < Octets.widthOf n := by
      rw [← Octets.length_ofNat, octets, List.length_cons]
      omega
    have count : (UInt8.ofNat (128 + Octets.widthOf n)).toNat = 128 + Octets.widthOf n := by
      rw [UInt8.toNat_ofNat', Nat.mod_eq_of_lt (by omega)]
    have taken : take? (Octets.widthOf n) (Octets.ofNat n ++ rest) =
        some (Octets.ofNat n, rest) := by
      rw [← Octets.length_ofNat, take?_append]
    have shortest : ¬ (n < 128 ∨ (Octets.ofNat n).head? = some 0) := by
      rintro (small | zero)
      · exact short small
      · rw [octets] at zero
        exact nonzero (Option.some.inj zero)
    rw [encodeLength, if_neg short, List.cons_append, length?, count, if_neg (by omega),
      if_neg (by omega), Nat.add_sub_cancel_left, taken]
    simp only [Option.bind_eq_bind, Option.bind_some, Octets.toNat_ofNat, if_neg shortest]

theorem length_lt_encode (tag : UInt8) (content : Octets) :
    content.length < (encode tag content).length := by
  rw [encode, List.cons_append, List.length_cons, List.length_append]
  omega

/-- An element takes at most six octets more than its content. -/
theorem length_encode_le (tag : UInt8) (h : content.length < 256 ^ 4) :
    (encode tag content).length ≤ content.length + 6 := by
  have width := Octets.widthOf_le h
  have length : (encodeLength content.length).length ≤ 5 := by
    unfold encodeLength
    split
    · simp
    · rw [List.length_cons, Octets.length_ofNat]
      omega
  rw [encode, List.cons_append, List.length_cons, List.length_append]
  omega

theorem length_encodeNatural_le {width : Nat} (h : n < 256 ^ width) (small : width + 1 < 256 ^ 4) :
    (encodeNatural n).length ≤ width + 7 := by
  have length : (Octets.ofNat n).length ≤ width := by
    rw [Octets.length_ofNat]
    exact Octets.widthOf_le h
  have content_le (content : Octets) (le : content.length ≤ width + 1) :
      (encode integerTag content).length ≤ width + 7 :=
    (length_encode_le integerTag (by omega)).trans (by omega)
  rw [encodeNatural]
  apply content_le
  split
  · rw [List.length_cons]
    omega
  · omega

/-- An element is read back, with all that follows it. -/
theorem element?_encode (tagged : tag.toNat % 32 ≠ 31) (h : content.length < 256 ^ 4)
    (rest : Octets) : element? (encode tag content ++ rest) = some (tag, content, rest) := by
  rw [encode, List.cons_append, List.cons_append, List.append_assoc, element?, if_neg tagged,
    Option.bind_eq_bind, length?_encodeLength h]
  simp only [Option.bind_eq_bind, Option.bind_some, take?_append]
  rfl

theorem expect?_encode (tagged : tag.toNat % 32 ≠ 31) (h : content.length < 256 ^ 4)
    (rest : Octets) : expect? tag (encode tag content ++ rest) = some (content, rest) := by
  rw [expect?, element?_encode tagged h]
  simp only [Option.bind_eq_bind, Option.bind_some, if_true]

theorem whole?_encode (tagged : tag.toNat % 32 ≠ 31) (h : content.length < 256 ^ 4) :
    whole? tag (encode tag content) = some content := by
  have read := expect?_encode tagged h []
  rw [List.append_nil] at read
  rw [whole?, read]
  rfl

/-- The content of a written number: its octets, behind a zero where the first could be a sign. -/
theorem encodeNatural_eq (n : Nat) :
    ∃ content, encodeNatural n = encode integerTag content ∧
      Octets.toNat content = n ∧
      ((∃ b, content = [b] ∧ b.toNat < 128) ∨
        ∃ a b others, content = a :: b :: others ∧ a.toNat < 128 ∧ (a = 0 → 128 ≤ b.toNat)) := by
  by_cases zero : n = 0
  · subst zero
    exact ⟨[0], rfl, rfl, .inl ⟨0, rfl, by decide⟩⟩
  · obtain ⟨first, others, octets, nonzero⟩ := Octets.exists_ofNat_eq_cons zero
    have value := Octets.toNat_ofNat n
    rw [octets] at value
    by_cases signed : first.toNat ≥ 128
    · refine ⟨0 :: first :: others, ?_, (Octets.toNat_zero_cons _).trans value, .inr ?_⟩
      · rw [encodeNatural, octets]
        exact congrArg (encode integerTag) (if_pos signed)
      · exact ⟨0, first, others, rfl, by decide, fun _ => signed⟩
    · refine ⟨first :: others, ?_, value, ?_⟩
      · rw [encodeNatural, octets]
        exact congrArg (encode integerTag) (if_neg signed)
      · cases others with
        | nil => exact .inl ⟨first, rfl, by omega⟩
        | cons second others =>
          exact .inr ⟨first, second, others, rfl, by omega, fun h => absurd h nonzero⟩

/-- A number is read back, with all that follows it. -/
theorem natural?_encodeNatural (h : (encodeNatural n).length < 256 ^ 4) (rest : Octets) :
    natural? (encodeNatural n ++ rest) = some (n, rest) := by
  obtain ⟨content, written, value, shape⟩ := encodeNatural_eq n
  rw [written] at h ⊢
  rw [natural?, expect?_encode (by decide) ((length_lt_encode integerTag content).trans h)]
  simp only [Option.bind_eq_bind, Option.bind_some]
  rcases shape with ⟨b, rfl, low⟩ | ⟨a, b, others, rfl, low, shortest⟩
  · obtain rfl : b.toNat = n := by
      rw [← value, ← List.nil_append [b], Octets.toNat_concat, Octets.toNat_nil]
      omega
    exact if_pos low
  · have accepted : ¬ (a.toNat ≥ 128 ∨ (a = 0 ∧ b.toNat < 128)) := by
      rintro (high | ⟨zero, small⟩)
      · omega
      · have := shortest zero
        omega
    simp only [if_neg accepted, value]

end CredentialRotation.Der.Strict
