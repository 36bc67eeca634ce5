import CredentialRotation.Octets

/-!
Tag, length and value elements as certificates are read: a length may take more octets than it
needs, tags may have long numbers, and what a tag means is left to the reader of each field.
Every reader takes the octets ahead and answers its value with the octets left.
-/
namespace CredentialRotation.Der

inductive TagClass
  | universal
  | application
  | contextSpecific
  | privateUse
  deriving DecidableEq, Repr

/-- The tag and the length in front of an element; no length means that a marker ends it. -/
structure Header where
  tagClass : TagClass
  constructed : Bool
  tag : Nat
  length : Option Nat
  deriving DecidableEq, Repr

/-- One element. -/
structure Element where
  header : Header
  content : Octets
  deriving DecidableEq, Repr

/-- Readers over octets. -/
abbrev Reader := StateT Octets Option

namespace Lenient

/-- The class in the two high bits of the first octet. -/
def classOf (b : UInt8) : TagClass :=
  match b.toNat / 64 with
  | 0 => .universal
  | 1 => .application
  | 2 => .contextSpecific
  | _ => .privateUse

/-- The next octet. -/
def octet : Reader UInt8
  | [] => none
  | b :: rest => some (b, rest)

/-- The next `n` octets. -/
def take (n : Nat) : Reader Octets := fun bs =>
  if n ≤ bs.length then some (bs.splitAt n) else none

/-- The octets of a long tag number, seven bits each; `fuel` bounds how many there are. -/
def tagNumber (fuel acc : Nat) : Reader Nat :=
  match fuel with
  | 0 => failure
  | fuel + 1 => do
    let b ← octet
    let acc := (acc * 128 + b.toNat % 128) % Nat.pow 2 32
    if b.toNat < 128 then return acc else tagNumber fuel acc

/-- A length in its own octets, as far as a machine can count. -/
def longLength (count : Nat) : Reader Nat := do
  let n := (← take count).toNat
  if n < Nat.pow 2 64 then return n else failure

/-- Reads a header. Tag numbers from 31 on take up to five octets. -/
def header : Reader Header := do
  let b ← octet
  let tag ← if b.toNat % 32 = 31 then tagNumber 5 0 else pure (b.toNat % 32)
  let l := (← octet).toNat
  let length ←
    if l < 128 then pure (some l)
    else if l = 128 then pure none
    else if l = 255 then failure
    else some <$> longLength (l - 128)
  return { tagClass := classOf b, constructed := b.toNat / 32 % 2 = 1, tag, length }

/-- Reads an element whose length is given. -/
def element : Reader Element := do
  let h ← header
  match h.length with
  | some n => return ⟨h, ← take n⟩
  | none => failure

/-- The length of the content that a header announces, and whether it is an end marker. A header
without a length is followed by elements up to an end marker. -/
def skipContent (fuel depth : Nat) (h : Header) : Reader Bool :=
  match fuel, depth with
  | 0, _ => failure
  | _, 0 => failure
  | fuel + 1, depth + 1 =>
    match h.length with
    | some n => do
      if n = 0 ∧ h.tag = 0 then return true
      let _ ← take n
      return false
    | none => if h.constructed then skipElements fuel (depth + 1) else failure
where
  /-- Skips elements up to the end marker of the innermost one that has no length. -/
  skipElements (fuel depth : Nat) : Reader Bool :=
    match fuel, depth with
    | 0, _ => failure
    | _, 0 => failure
    | fuel + 1, depth + 1 => do
      let h ← header
      if h.length.isNone ∧ !h.constructed then failure
      if ← skipContent fuel depth h then return false
      skipElements fuel (depth + 1)

/-- Reads an element whose content may also be ended by a marker. -/
def elementOrMarked : Reader Element := fun bs => do
  let (h, rest) ← header bs
  if h.length.isNone ∧ !h.constructed then none
  let (_, left) ← skipContent (2 * bs.length + 2) 50 h rest
  let used := rest.take (rest.length - left.length)
  let content := if h.length.isNone then used.take (used.length - 2) else used
  return (⟨h, content⟩, left)

/-- Runs a reader on the content of an element with the given tag number. What the reader leaves
of the content is dropped. -/
def within {α : Type} (tag : Nat) (inner : Reader α) : Reader α := do
  let e ← element
  if e.header.tag ≠ tag then failure
  match inner e.content with
  | some (a, _) => return a
  | none => failure

/-- Runs a reader again and again until it fails, and gives what it read before that. -/
def many {α : Type} (fuel : Nat) (item : Reader α) (bs : Octets) : List α × Octets :=
  match fuel with
  | 0 => ([], bs)
  | fuel + 1 =>
    match item bs with
    | some (a, rest) =>
      let (more, left) := many fuel item rest
      (a :: more, left)
    | none => ([], bs)

end Lenient
end CredentialRotation.Der
