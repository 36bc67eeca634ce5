import CredentialRotation.Octets

/-!
Base64 with the standard alphabet. Padding is required and the unused bits of the last symbol are
zero, so every octet string has exactly one written form.
-/
namespace CredentialRotation.Base64

/-- Why an octet string is not a written form. -/
inductive Fault
  | invalidSymbol (octet : UInt8) (offset : Nat)
  | invalidLength (length : Nat)
  | invalidLastSymbol (octet : UInt8) (offset : Nat)
  | invalidPadding
  deriving DecidableEq, Repr

/-- The text of a fault. -/
def Fault.message : Fault → String
  | .invalidSymbol b place => s!"Invalid symbol {b.toNat}, offset {place}."
  | .invalidLength n => s!"Invalid input length: {n}"
  | .invalidLastSymbol b place => s!"Invalid last symbol {b.toNat}, offset {place}."
  | .invalidPadding => "Invalid padding"

/-- The octet that fills the last quad. -/
def pad : UInt8 := 61

/-- The six bits a symbol stands for. -/
def symbolValue? (b : UInt8) : Option Nat :=
  let n := b.toNat
  if 65 ≤ n ∧ n ≤ 90 then some (n - 65)
  else if 97 ≤ n ∧ n ≤ 122 then some (n - 71)
  else if 48 ≤ n ∧ n ≤ 57 then some (n + 4)
  else if n = 43 then some 62
  else if n = 47 then some 63
  else none

/-- The symbol of six bits. -/
def symbol (v : Nat) : UInt8 :=
  if v < 26 then UInt8.ofNat (v + 65)
  else if v < 52 then UInt8.ofNat (v + 71)
  else if v < 62 then UInt8.ofNat (v - 4)
  else if v = 62 then 43
  else 47

/-- Three octets become four symbols; one or two left over are padded. -/
def encode : Octets → Octets
  | [] => []
  | [a] => [symbol (a.toNat / 4), symbol (a.toNat % 4 * 16), pad, pad]
  | [a, b] =>
    [symbol (a.toNat / 4), symbol (a.toNat % 4 * 16 + b.toNat / 16), symbol (b.toNat % 16 * 4), pad]
  | a :: b :: c :: rest =>
    symbol (a.toNat / 4) :: symbol (a.toNat % 4 * 16 + b.toNat / 16) ::
      symbol (b.toNat % 16 * 4 + c.toNat / 64) :: symbol (c.toNat % 64) :: encode rest

/-- The value of a symbol at an offset. -/
def value (b : UInt8) (offset : Nat) : Except Fault Nat :=
  match symbolValue? b with
  | some v => .ok v
  | none => .error (.invalidSymbol b offset)

/-- What the last quad holds: its symbols with their values, then how many pads. -/
def lastSymbols (start : Nat) : Nat → List (UInt8 × Nat) → Octets →
    Except Fault (List (UInt8 × Nat) × Nat)
  | _, seen, [] => .ok (seen, 0)
  | i, seen, b :: rest =>
    if b = pad then
      if i < 2 then .error (.invalidSymbol b (start + i))
      else if rest.all (· = pad) then .ok (seen, rest.length + 1)
      else .error (.invalidSymbol b (start + i))
    else do
      let v ← value b (start + i)
      lastSymbols start (i + 1) (seen ++ [(b, v)]) rest

/-- The last one to four octets: two symbols make one octet, three make two, four make three. -/
def lastQuad (start : Nat) (quad : Octets) : Except Fault Octets := do
  let (symbols, pads) ← lastSymbols start 0 [] quad
  if symbols.length < 2 then
    throw (.invalidLength (start + symbols.length))
  if symbols.length + pads ≠ 4 then
    throw .invalidPadding
  match symbols with
  | [(_, a), (b, v)] =>
    if v % 16 = 0 then return [UInt8.ofNat (a * 4 + v / 16)]
    else throw (.invalidLastSymbol b (start + 1))
  | [(_, a), (_, b), (c, v)] =>
    if v % 4 = 0 then return [UInt8.ofNat (a * 4 + b / 16), UInt8.ofNat (b % 16 * 16 + v / 4)]
    else throw (.invalidLastSymbol c (start + 2))
  | [(_, a), (_, b), (_, c), (_, d)] =>
    return [UInt8.ofNat (a * 4 + b / 16), UInt8.ofNat (b % 16 * 16 + c / 4),
      UInt8.ofNat (c % 4 * 64 + d)]
  | _ => throw .invalidPadding

/-- Reads quads from an offset on. All but the last are symbols only. -/
def quads (start : Nat) : Octets → Except Fault Octets
  | [] => .ok []
  | a :: b :: c :: d :: e :: rest => do
    let a ← value a start
    let b ← value b (start + 1)
    let c ← value c (start + 2)
    let d ← value d (start + 3)
    let more ← quads (start + 4) (e :: rest)
    return UInt8.ofNat (a * 4 + b / 16) :: UInt8.ofNat (b % 16 * 16 + c / 4) ::
      UInt8.ofNat (c % 4 * 64 + d) :: more
  | quad => lastQuad start quad

/-- A single octet past whole quads that is no symbol and no pad is reported before all else. -/
def strayLast? (bs : Octets) : Option Fault :=
  match bs.getLast? with
  | some b =>
    if bs.length % 4 = 1 ∧ b ≠ pad ∧ (symbolValue? b).isNone then
      some (.invalidSymbol b (bs.length - 1))
    else none
  | none => none

/-- Reads a written form, or names the first fault. -/
def decode (bs : Octets) : Except Fault Octets :=
  match strayLast? bs with
  | some fault => .error fault
  | none => quads 0 bs

end CredentialRotation.Base64
