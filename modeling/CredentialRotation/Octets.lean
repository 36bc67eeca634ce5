/-!
Octet strings, the numbers they write in base 256, and their hexadecimal text.
-/
namespace CredentialRotation

/-- A string of octets. -/
abbrev Octets := List UInt8

namespace Octets

/-- The number written most significant octet first. -/
def toNat (bs : Octets) : Nat :=
  bs.foldl (fun n b => n * 256 + b.toNat) 0

/-- The low `width` octets of a number, most significant first. -/
def ofNatWidth : Nat → Nat → Octets
  | 0, _ => []
  | width + 1, n => ofNatWidth width (n / 256) ++ [UInt8.ofNat (n % 256)]

/-- How many octets a number takes; zero takes none. -/
def widthOf (n : Nat) : Nat :=
  if n = 0 then 0 else n.log2 / 8 + 1

/-- The octets of a number without leading zeros; zero has none. -/
def ofNat (n : Nat) : Octets :=
  ofNatWidth (widthOf n) n

/-- The octets of an ASCII text. Characters from 128 on lose their high bits. -/
def ascii (text : String) : Octets :=
  text.toList.map fun c => UInt8.ofNat c.toNat

/-- A digit by its number. -/
def hexDigit (digits : Array Char) (n : Nat) : Char :=
  digits.getD n '0'

/-- Two digits an octet, high digit first. -/
def hexText (digits : Array Char) (bs : Octets) : String :=
  String.ofList (bs.flatMap fun b =>
    [hexDigit digits (b.toNat / 16), hexDigit digits (b.toNat % 16)])

/-- Two lowercase digits an octet. -/
def hex (bs : Octets) : String :=
  hexText #['0', '1', '2', '3', '4', '5', '6', '7', '8', '9', 'a', 'b', 'c', 'd', 'e', 'f'] bs

/-- Two uppercase digits an octet. -/
def hexUpper (bs : Octets) : String :=
  hexText #['0', '1', '2', '3', '4', '5', '6', '7', '8', '9', 'A', 'B', 'C', 'D', 'E', 'F'] bs

end Octets
end CredentialRotation
