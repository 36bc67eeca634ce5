import CredentialRotation.Text.Utf16
import Mathlib.Data.List.Basic

/-!
UTF-16 as it is written. Text that was written is read back.
-/
namespace CredentialRotation.Utf16

section Units
variable {c : Char} {rest us : List Nat}

/-- One unit, or two surrogates for a character that does not fit into one. -/
def unitsOf (c : Char) : List Nat :=
  if c.toNat < 0x10000 then [c.toNat]
  else [0xd800 + (c.toNat - 0x10000) / 1024, 0xdc00 + (c.toNat - 0x10000) % 1024]

/-- The octets of units, most significant octet first. -/
def octetsOf (us : List Nat) : Octets :=
  us.flatMap fun u => [UInt8.ofNat (u / 256), UInt8.ofNat (u % 256)]

def encode (cs : List Char) : Octets :=
  octetsOf (cs.flatMap unitsOf)

/-- Surrogates are no characters. -/
theorem toNat_bounds (c : Char) : c.toNat < 0xd800 ∨ 0xdfff < c.toNat ∧ c.toNat < 0x110000 :=
  c.valid

theorem lt_of_mem_unitsOf {u : Nat} (mem : u ∈ unitsOf c) : u < 0x10000 := by
  have bounds := toNat_bounds c
  unfold unitsOf at mem
  generalize c.toNat = n at bounds mem
  split at mem
  · rw [List.mem_singleton.1 mem]
    assumption
  · simp only [List.mem_cons, List.not_mem_nil, or_false] at mem
    omega

theorem units_octetsOf (small : ∀ u ∈ us, u < 0x10000) : units (octetsOf us) = us := by
  induction us with
  | nil => rfl
  | cons u us ih =>
    obtain ⟨first, others⟩ := List.forall_mem_cons.1 small
    have read : units (octetsOf (u :: us)) =
        ((UInt8.ofNat (u / 256)).toNat * 256 + (UInt8.ofNat (u % 256)).toNat) ::
          units (octetsOf us) := rfl
    rw [read, ih others, UInt8.toNat_ofNat', UInt8.toNat_ofNat']
    congr 1
    omega

/-- The units of a character are read as that character. -/
theorem ofUnits?_unitsOf_append (c : Char) (rest : List Nat) :
    ofUnits? (unitsOf c ++ rest) = (ofUnits? rest).map (c :: ·) := by
  have bounds := toNat_bounds c
  by_cases single : c.toNat < 0x10000
  · have high : isHigh c.toNat = false := by
      simp only [isHigh, Bool.and_eq_false_iff, decide_eq_false_iff_not]
      omega
    have low : isLow c.toNat = false := by
      simp only [isLow, Bool.and_eq_false_iff, decide_eq_false_iff_not]
      omega
    rw [unitsOf, if_pos single]
    cases rest with
    | nil => simp [ofUnits?, high, low]
    | cons v rest => simp [ofUnits?, high, low]
  · have high : isHigh (0xd800 + (c.toNat - 0x10000) / 1024) = true := by
      simp only [isHigh, Bool.and_eq_true, decide_eq_true_eq]
      omega
    have low : isLow (0xdc00 + (c.toNat - 0x10000) % 1024) = true := by
      simp only [isLow, Bool.and_eq_true, decide_eq_true_eq]
      omega
    have joined : 0x10000 + (0xd800 + (c.toNat - 0x10000) / 1024 - 0xd800) * 1024 +
        (0xdc00 + (c.toNat - 0x10000) % 1024 - 0xdc00) = c.toNat := by
      omega
    rw [unitsOf, if_neg single]
    simp only [List.cons_append, List.nil_append, ofUnits?, high, low, joined, if_true,
      Char.ofNat_toNat]

end Units

/-- What was written for a text is read as that text. -/
theorem decode?_encode (cs : List Char) : decode? (encode cs) = some cs := by
  have small : ∀ u ∈ cs.flatMap unitsOf, u < 0x10000 := by
    intro u mem
    obtain ⟨c, -, here⟩ := List.mem_flatMap.1 mem
    exact lt_of_mem_unitsOf here
  rw [decode?, encode, units_octetsOf small]
  clear small
  induction cs with
  | nil => rfl
  | cons c cs ih =>
    rw [List.flatMap_cons, ofUnits?_unitsOf_append, ih]
    rfl

end CredentialRotation.Utf16
