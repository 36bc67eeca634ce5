import CredentialRotation.Octets

/-!
UTF-16 text in big-endian octets. A last octet without a partner is a unit of its own.
-/
namespace CredentialRotation.Utf16

/-- The units of an octet string. -/
def units : Octets → List Nat
  | [] => []
  | [b] => [b.toNat]
  | a :: b :: rest => (a.toNat * 256 + b.toNat) :: units rest

def isHigh (u : Nat) : Bool := 0xd800 ≤ u && u < 0xdc00
def isLow (u : Nat) : Bool := 0xdc00 ≤ u && u < 0xe000

/-- The text of a list of units; a surrogate without its partner has none. -/
def ofUnits? : List Nat → Option (List Char)
  | [] => some []
  | [u] => if isHigh u || isLow u then none else some [Char.ofNat u]
  | u :: v :: rest =>
    if isHigh u then
      if isLow v then
        (ofUnits? rest).map (Char.ofNat (0x10000 + (u - 0xd800) * 1024 + (v - 0xdc00)) :: ·)
      else none
    else if isLow u then none
    else (ofUnits? (v :: rest)).map (Char.ofNat u :: ·)

/-- The text of an octet string. -/
def decode? (bs : Octets) : Option (List Char) :=
  ofUnits? (units bs)

end CredentialRotation.Utf16
