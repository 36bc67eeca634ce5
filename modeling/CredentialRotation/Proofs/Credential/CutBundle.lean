import CredentialRotation.Proofs.Credential.PartialWrite

/-!
Bundles that are cut off anywhere. Whatever the place, the blocks that are complete in front of it
are read, and what is left of the next one is foreign text.
-/
namespace CredentialRotation

namespace Pem
variable {opening : List Char}

theorem Marker.exists_text_eq_concat (m : Marker opening) : ∃ most, m.text = most ++ ['-'] :=
  ⟨m.front ++ m.label ++ m.word ++ "----".toList, by simp [text]⟩

/-- A marker that is read in the first octets is read in all of them, for its last hyphen shuts it
off from what follows. -/
theorem ContainsMarker.of_prefix {part octets : Octets} (front : part <+: octets)
    (h : ContainsMarker opening (Utf8.decodeLossy part)) :
    ContainsMarker opening (Utf8.decodeLossy octets) := by
  obtain ⟨before, after, m, read⟩ := h
  obtain ⟨most, ends⟩ := m.exists_text_eq_concat
  rw [ends, List.append_assoc, List.append_assoc, ← List.append_assoc before,
    List.singleton_append] at read
  obtain ⟨x, y, rfl, hx, -⟩ := Utf8.exists_of_decodeLossy_eq read
  obtain ⟨rest, rfl⟩ := front
  refine ⟨before, Utf8.decodeLossy (y ++ rest), m, ?_⟩
  rw [List.append_assoc, List.cons_append, Utf8.decodeLossy_append_ascii (by decide),
    Utf8.decodeLossy_cons_ascii (by decide), hx, ends]
  simp only [List.append_assoc, List.singleton_append]
  rfl

end Pem

namespace Bundle

/-- How many blocks end within the first octets, their END markers included. -/
def complete (sections : List (Separator × CertificateBlock)) (size : Nat) : Nat :=
  (List.range sections.length).countP fun i => (written (sections.take (i + 1))).length ≤ size

section Counting
variable {separator : Separator} {block : CertificateBlock}
  {sections : List (Separator × CertificateBlock)} {size : Nat}

private theorem length_written_take (i : Nat) :
    (written (((separator, block) :: sections).take (i + 1))).length =
      (separator.octets ++ Utf8.encode block.text).length + (written (sections.take i)).length := by
  rw [List.take_succ_cons, written, List.flatMap_cons, List.length_append]

theorem complete_of_short
    (short : size < (separator.octets ++ Utf8.encode block.text).length) :
    complete ((separator, block) :: sections) size = 0 := by
  refine List.countP_eq_zero.2 fun i _ => ?_
  rw [length_written_take]
  simp only [decide_eq_true_eq]
  omega

theorem complete_of_long
    (long : (separator.octets ++ Utf8.encode block.text).length ≤ size) :
    complete ((separator, block) :: sections) size =
      complete sections (size - (separator.octets ++ Utf8.encode block.text).length) + 1 := by
  rw [complete, List.length_cons, List.range_succ_eq_map, List.countP_cons, List.countP_map]
  have first : (written (((separator, block) :: sections).take (0 + 1))).length ≤ size := by
    rw [length_written_take]
    exact long
  rw [if_pos (decide_eq_true first)]
  congr 1
  refine List.countP_congr fun i _ => ?_
  simp only [Function.comp_apply, Nat.succ_eq_add_one, length_written_take, decide_eq_true_eq]
  omega

end Counting

section Cutting
variable {tail : Octets}

/-- Cut off anywhere, a bundle shows the bodies of the blocks that are complete. -/
theorem certificateBodies_take (sections : List (Separator × CertificateBlock))
    (tail_free : ¬ Pem.ContainsMarker "-----begin ".toList (Utf8.decodeLossy tail)) (size : Nat) :
    Pem.certificateBodies (Utf8.decodeLossy ((written sections ++ tail).take size)) =
      (sections.take (complete sections size)).map fun s => s.2.body := by
  induction sections generalizing size with
  | nil =>
    exact Pem.certificateBodies_of_not_contains fun contained =>
      tail_free (contained.of_prefix (List.take_prefix size tail))
  | cons s sections ih =>
    obtain ⟨separator, block⟩ := s
    have whole : written ((separator, block) :: sections) ++ tail =
        separator.octets ++ (Utf8.encode block.text ++ (written sections ++ tail)) := by
      simp only [written, List.flatMap_cons, List.append_assoc]
    rw [whole]
    by_cases long : (separator.octets ++ Utf8.encode block.text).length ≤ size
    · rw [complete_of_long long, List.take_succ_cons, List.map_cons, ← ih, ← List.append_assoc,
        List.take_append, List.take_of_length_le long, List.append_assoc, block.decodeLossy_append,
        CertificateBlock.text, List.append_assoc, List.append_assoc]
      exact Pem.certificateBodies_block block.begins block.ends separator.free
        separator.decodeLossy_ends block.hyphen_not_mem_body
    · rw [complete_of_short (Nat.lt_of_not_le long)]
      rw [List.length_append] at long
      by_cases within : size ≤ separator.octets.length
      · rw [List.take_append_of_le_length within]
        exact Pem.certificateBodies_of_not_contains fun contained =>
          separator.free (contained.of_prefix (List.take_prefix size _))
      · rw [List.take_append, List.take_of_length_le (by omega),
          List.take_append_of_le_length (by omega)]
        refine block.certificateBodies_cut separator (List.take_prefix _ _) fun same => ?_
        have length := congrArg List.length same
        rw [List.length_take] at length
        omega

/-- Cut off anywhere, a bundle is read as the chain of its first certificates, namely of those whose
blocks end, with their END markers, in front of the cut. -/
theorem cut_keeps_complete_blocks (bundle : Bundle) (size : Nat) :
    (Chain.decode (bundle.octets.take size)).outcome =
      .ok ⟨bundle.certificates.take (complete bundle.sections size)⟩ := by
  rw [Chain.decode, octets, certificateBodies_take bundle.sections bundle.tail_free, decodeBlocks_eq,
    certificates, ← List.map_take]
  rfl

end Cutting
end Bundle
end CredentialRotation
