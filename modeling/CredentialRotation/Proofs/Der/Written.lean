import CredentialRotation.Der.Strict
import CredentialRotation.Proofs.Der.Lenient
import CredentialRotation.Proofs.Octets

/-!
The lenient readers on what the distinguished encoding writes. Whatever follows an element that was
written, the element is read and the rest is left, as long as a machine can hold it.
-/
namespace CredentialRotation.Der

open Strict (encode encodeLength)

/-- A machine can hold these octets. -/
def Held (bs : Octets) : Prop := bs.length < 2 ^ 64

section Held
variable {bs cs : Octets} {tag : UInt8}

theorem Held.left (held : Held (bs ++ cs)) : Held bs := by
  rw [Held, List.length_append] at held
  exact Nat.lt_of_le_of_lt (Nat.le_add_right _ _) held

theorem Held.right (held : Held (bs ++ cs)) : Held cs := by
  rw [Held, List.length_append] at held
  exact Nat.lt_of_le_of_lt (Nat.le_add_left _ _) held

theorem Held.split (held : Held (bs ++ cs)) : Held bs ∧ Held cs := ⟨held.left, held.right⟩

theorem Held.content (held : Held (encode tag bs)) : Held bs := by
  exact Held.right held

theorem Held.of_mem {α : Type} {written : α → Octets} {items : List α} {a : α}
    (held : Held (items.flatMap written)) (mem : a ∈ items) : Held (written a) := by
  obtain ⟨before, after, rfl⟩ := List.append_of_mem mem
  rw [List.flatMap_append, List.flatMap_cons] at held
  exact held.right.left

end Held

/-- A reader takes these octets for a value, and leaves whatever follows them. -/
def Reads {α : Type} (x : Reader α) (bs : Octets) (a : α) : Prop :=
  ∀ rest, x (bs ++ rest) = some (a, rest)

section Readers
variable {α β : Type} {x : Reader α} {f : α → Reader β} {bs cs left rest : Octets} {a : α} {b : β}

/-- Reading goes on behind what was read. -/
theorem Reads.step (first : Reads x bs a) (next : f a cs = some (b, left)) :
    (x >>= f) (bs ++ cs) = some (b, left) :=
  Reader.bind_eq_some_iff.2 ⟨a, cs, first cs, next⟩

/-- It ends where nothing is left to read. -/
theorem Reads.finish (first : Reads x bs a) (next : f a [] = some (b, left)) :
    (x >>= f) bs = some (b, left) := by
  simpa only [List.append_nil] using first.step next

theorem Reads.last (reads : Reads x bs a) : x bs = some (a, []) := by
  simpa only [List.append_nil] using reads []

theorem Reads.pure (a : α) : Reads (pure a : Reader α) [] a := fun _ => rfl

end Readers

namespace Lenient

/-- The header in front of the element that is written for a tag and content of a length. -/
def headerOf (tag : UInt8) (length : Nat) : Header :=
  { tagClass := classOf tag
    constructed := tag.toNat / 32 % 2 = 1
    tag := tag.toNat % 32
    length := some length }

section Elements
variable {tag : UInt8} {content rest : Octets} {n : Nat}

theorem reads_octet (b : UInt8) : Reads octet [b] b := fun _ => rfl

theorem reads_take (content : Octets) : Reads (take content.length) content content :=
  take_append content

theorem reads_longLength (small : n < 2 ^ 64) :
    Reads (longLength (Octets.widthOf n)) (Octets.ofNat n) n := by
  intro rest
  have taken := reads_take (Octets.ofNat n)
  rw [Octets.length_ofNat] at taken
  refine taken.step ?_
  rw [Octets.toNat_ofNat, if_pos (show n < Nat.pow 2 64 from small)]
  rfl

theorem reads_lengthField (small : n < 2 ^ 64) : Reads lengthField (encodeLength n) (some n) := by
  by_cases short : n < 128
  · have octet : (UInt8.ofNat n).toNat = n := by
      rw [UInt8.toNat_ofNat', Nat.mod_eq_of_lt (by omega)]
    rw [encodeLength, if_pos short]
    intro rest
    refine (reads_octet _).step ?_
    rw [octet, if_pos short]
    rfl
  · have width : Octets.widthOf n ≤ 8 := Octets.widthOf_le small
    have positive : Octets.widthOf n ≠ 0 := by
      obtain ⟨width, width_eq, -⟩ := Octets.widthOf_bounds (n := n) (by omega)
      rw [width_eq]
      exact Nat.succ_ne_zero width
    have count : (UInt8.ofNat (128 + Octets.widthOf n)).toNat = 128 + Octets.widthOf n := by
      rw [UInt8.toNat_ofNat', Nat.mod_eq_of_lt (by omega)]
    rw [encodeLength, if_neg short]
    intro rest
    refine (reads_octet _).step ?_
    rw [count, if_neg (by omega), if_neg (by omega), if_neg (by omega), Nat.add_sub_cancel_left,
      map_eq_pure_bind]
    exact Reader.bind_eq_some_iff.2 ⟨n, rest, reads_longLength small rest, rfl⟩

theorem reads_header (low : tag.toNat % 32 ≠ 31) (small : n < 2 ^ 64) :
    Reads header (tag :: encodeLength n) (headerOf tag n) := by
  intro rest
  rw [header_eq]
  refine (reads_octet tag).step ?_
  rw [tagField, if_neg low]
  exact (Reads.pure (tag.toNat % 32)).step ((reads_lengthField small).step rfl)

/-- The header of a written element leaves its content. -/
theorem header_encode (low : tag.toNat % 32 ≠ 31) (held : Held content) (rest : Octets) :
    header (encode tag content ++ rest) =
      some (headerOf tag content.length, content ++ rest) := by
  rw [encode, List.append_assoc]
  exact reads_header low held _

theorem header_encode_last (low : tag.toNat % 32 ≠ 31) (held : Held content) :
    header (encode tag content) = some (headerOf tag content.length, content) := by
  simpa only [List.append_nil] using header_encode low held []

/-- A written element is read. -/
theorem reads_element (low : tag.toNat % 32 ≠ 31) (held : Held content) :
    Reads element (encode tag content) ⟨headerOf tag content.length, content⟩ :=
  fun rest => element_eq_some_iff.2 ⟨header_encode low held rest, rfl⟩

/-- So it is where a marker could end the content. -/
theorem reads_elementOrMarked (low : tag.toNat % 32 ≠ 31) (held : Held content)
    (marker : tag.toNat % 32 ≠ 0) :
    Reads elementOrMarked (encode tag content) ⟨headerOf tag content.length, content⟩ := by
  intro rest
  have skips (fuel depth : Nat) :
      skipContent (fuel + 1) (depth + 1) (headerOf tag content.length) (content ++ rest) =
        some (false, rest) := by
    have inside : ¬ (content.length = 0 ∧ (headerOf tag content.length).tag = 0) :=
      fun ended => marker ended.2
    rw [skipContent]
    change (if _ ∧ _ then _ else take content.length >>= fun _ => pure false) _ = _
    rw [if_neg inside]
    exact (reads_take content).step rfl
  rw [elementOrMarked, header_encode low held]
  simp only [Option.bind_eq_bind, Option.bind_some, skips]
  simp [headerOf]

/-- What is written inside an element is read from its content. -/
theorem reads_within {α : Type} {inner : Reader α} {a : α} {number : Nat}
    (tagged : tag.toNat % 32 = number) (low : number ≠ 31) (held : Held content)
    (read : inner content = some (a, [])) : Reads (within number inner) (encode tag content) a :=
  fun rest => within_eq_some_iff.2
    ⟨_, reads_element (tagged ▸ low) held rest, tagged, [], read⟩

end Elements

section Many
variable {α β : Type} {item : Reader β} {written : α → Octets} {said : α → β} {items : List α}

theorem many_flatMap (reads : ∀ a ∈ items, Reads item (written a) (said a))
    (none : item [] = none) {fuel : Nat} (enough : items.length ≤ fuel) :
    many fuel item (items.flatMap written) = (items.map said, []) := by
  induction items generalizing fuel with
  | nil =>
    cases fuel with
    | zero => rfl
    | succ fuel => simp [many, none]
  | cons a items ih =>
    obtain ⟨first, others⟩ := List.forall_mem_cons.1 reads
    cases fuel with
    | zero => cases enough
    | succ fuel =>
      rw [List.flatMap_cons, many, first]
      simp [ih others (Nat.le_of_succ_le_succ enough)]

/-- What is not read of no octets takes some. -/
theorem length_le_flatMap (reads : ∀ a ∈ items, Reads item (written a) (said a))
    (none : item [] = none) : items.length ≤ (items.flatMap written).length := by
  induction items with
  | nil => rfl
  | cons a items ih =>
    obtain ⟨first, others⟩ := List.forall_mem_cons.1 reads
    have positive : written a ≠ [] := by
      intro empty
      have read := first.last
      rw [empty, none] at read
      cases read
    have := List.length_pos_iff.2 positive
    have := ih others
    rw [List.flatMap_cons, List.length_append, List.length_cons]
    omega

/-- Written items in a row are all read, in as many rounds as they have octets. -/
theorem many_written (reads : ∀ a ∈ items, Reads item (written a) (said a))
    (none : item [] = none) :
    many (items.flatMap written).length item (items.flatMap written) = (items.map said, []) :=
  many_flatMap reads none (length_le_flatMap reads none)

end Many

end Lenient
end CredentialRotation.Der
