import CredentialRotation.Octets

/-!
Network addresses: their usual text, the octets certificates hold, and networks given by an address
and a mask.
-/
namespace CredentialRotation

inductive IpAddress
  | v4 (octets : Octets)
  | v6 (octets : Octets)
  deriving DecidableEq, Repr

namespace IpAddress

def octets : IpAddress → Octets
  | .v4 bs | .v6 bs => bs

private def digitValue? (radix : Nat) (c : Char) : Option Nat :=
  let n := c.toLower.toNat
  let value := if c.isDigit then c.toNat - 48 else n - 87
  if (c.isDigit || (97 ≤ n && n ≤ 102)) && value < radix then some value else none

/-- Reads a number of one to `most` digits. -/
private def number? (radix most : Nat) (cs : List Char) : Option Nat :=
  if cs.isEmpty ∨ most < cs.length then none
  else cs.foldlM (fun n c => (digitValue? radix c).map fun d => n * radix + d) 0

/-- Four numbers up to 255, without leading zeros and with points between them. -/
private def fourOctets? (cs : List Char) : Option Octets := do
  let numbers ← (cs.splitOn '.').mapM fun part => do
    let n ← number? 10 3 part
    if n < 256 ∧ (part.length = 1 ∨ part.head? ≠ some '0') then some (UInt8.ofNat n) else none
  if numbers.length = 4 then some numbers else none

private def group? (cs : List Char) : Option Octets :=
  (number? 16 4 cs).map fun n => Octets.ofNatWidth 2 n

/-- Groups with colons between them, the last of which may be four numbers with points. -/
private def groups? : List (List Char) → Option Octets
  | [] => some []
  | [last] => group? last <|> fourOctets? last
  | first :: rest => do return (← group? first) ++ (← groups? rest)

/-- Groups on one side of a gap. -/
private def side? (cs : List Char) : Option Octets :=
  if cs.isEmpty then some [] else groups? (cs.splitOn ':')

/-- What stands before the first two colons in a row, and what follows them. -/
private def gap? : List Char → Option (List Char × List Char)
  | ':' :: ':' :: rest => some ([], rest)
  | c :: rest => (gap? rest).map fun (before, after) => (c :: before, after)
  | [] => none

/-- Eight groups, or fewer with one gap that stands for at least one group of zeros. Before a gap
stand groups only. -/
private def sixteenOctets? (cs : List Char) : Option Octets :=
  match gap? cs with
  | none => do
    let bs ← groups? (cs.splitOn ':')
    if bs.length = 16 then some bs else none
  | some (before, after) => do
    let head ← if before.isEmpty then some [] else (before.splitOn ':').mapM group?
    let front := head.flatten
    let back ← side? after
    if front.length + back.length ≤ 14 then
      some (front ++ List.replicate (16 - front.length - back.length) 0 ++ back)
    else none

/-- Reads an address. -/
def ofText? (text : String) : Option IpAddress :=
  (fourOctets? text.toList).map .v4 <|> (sixteenOctets? text.toList).map .v6

private def fourText (bs : Octets) : String :=
  String.intercalate "." (bs.map fun b => toString b.toNat)

private def hexNumber (n : Nat) : String :=
  String.ofList (Nat.toDigits 16 n)

private def groups : Octets → List Nat
  | a :: b :: rest => (a.toNat * 256 + b.toNat) :: groups rest
  | _ => []

private def colons (groups : List Nat) : String :=
  String.intercalate ":" (groups.map hexNumber)

/-- Start and length of the first of the longest runs of zeros. -/
private def longestZeros (place : Nat) : List Nat → Nat × Nat
  | [] => (0, 0)
  | g :: gs =>
    let run := ((g :: gs).takeWhile (· = 0)).length
    let (start, best) := longestZeros (place + 1) gs
    if run > 0 ∧ run ≥ best then (place, run) else (start, best)

/-- The usual text. The longest run of two or more groups of zeros becomes a gap, and an address of
the other kind in its wrapping keeps its points. -/
def text : IpAddress → String
  | .v4 bs => fourText bs
  | .v6 bs =>
    if bs.take 12 = List.replicate 10 0 ++ [255, 255] then "::ffff:" ++ fourText (bs.drop 12)
    else
      let gs := groups bs
      let (start, run) := longestZeros 0 gs
      if run > 1 then colons (gs.take start) ++ "::" ++ colons (gs.drop (start + run))
      else colons gs

/-- A run of ones and then a run of zeros. -/
private def isMaskOctet (b : UInt8) : Bool :=
  (List.range 9).any fun zeros => b.toNat = 256 - Nat.pow 2 zeros

/-- Octets of an address with those of a network's address and mask, one by one. The mask is only
looked at as far as the address agrees with the network; nothing is found in a mask that is not a
run of ones before a run of zeros. -/
def isWithin? (ended : Bool) : List (UInt8 × UInt8 × UInt8) → Option Bool
  | [] => some true
  | (name, base, mask) :: rest =>
    if !isMaskOctet mask || (ended && mask ≠ 0) then none
    else if (name ^^^ base) &&& mask ≠ 0 then some false
    else isWithin? (mask ≠ 255) rest

end IpAddress
end CredentialRotation
