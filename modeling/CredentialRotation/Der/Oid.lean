import CredentialRotation.Octets

/-!
Object identifiers in their content octets: seven bits an octet, the high bit saying that the arc
goes on. The first octet holds the first two arcs.
-/
namespace CredentialRotation

/-- An object identifier, kept as the content octets it was read from. -/
structure Oid where
  content : Octets
  deriving DecidableEq, Repr

namespace Oid

private def arcsFrom (acc : Nat) : Octets → List Nat
  | [] => []
  | [b] => [acc * 128 + b.toNat % 128]
  | b :: rest =>
    let acc := acc * 128 + b.toNat % 128
    if b.toNat < 128 then acc :: arcsFrom 0 rest else arcsFrom acc rest

/-- The arcs. The first octet is split by forty even when it exceeds a single octet's range of
arcs, and a lone zero octet is one arc. -/
def arcs (oid : Oid) : List Nat :=
  match oid.content with
  | [] => []
  | [b] => if b.toNat = 0 then [0] else [b.toNat / 40, b.toNat % 40]
  | b :: rest => b.toNat / 40 :: b.toNat % 40 :: arcsFrom 0 rest

/-- The arcs in decimal with points between them. -/
def dotted (oid : Oid) : String :=
  String.intercalate "." (oid.arcs.map toString)

private def base128 (fuel n : Nat) (low : Bool) : Octets :=
  match fuel with
  | 0 => []
  | fuel + 1 =>
    let octet := UInt8.ofNat (n % 128 + if low then 0 else 128)
    if n < 128 then [octet] else base128 fuel (n / 128) false ++ [octet]

/-- The identifier of a list of arcs; the first two share an octet. -/
def ofArcs : List Nat → Oid
  | a :: b :: rest => ⟨UInt8.ofNat (a * 40 + b) :: rest.flatMap fun n => base128 (n + 1) n true⟩
  | _ => ⟨[]⟩

end Oid
end CredentialRotation
