import CredentialRotation.Number.Modular
import CredentialRotation.Octets

/-!
The SHA-2 digests. Both families run the same rounds and differ in the size of a word, the number
of rounds and the distances that words are turned by. Constants are the first bits behind the point
of square and cube roots of primes.
-/
namespace CredentialRotation.Sha2

/-- What a family of digests fixes. The last distance of a mix is a shift, all others turn. -/
structure Family where
  width : Nat
  rounds : Nat
  sumA : Nat × Nat × Nat
  sumE : Nat × Nat × Nat
  mixLow : Nat × Nat × Nat
  mixHigh : Nat × Nat × Nat

/-- Words of 32 bits. -/
def words32 : Family :=
  ⟨32, 64, (2, 13, 22), (6, 11, 25), (7, 18, 3), (17, 19, 10)⟩

/-- Words of 64 bits. -/
def words64 : Family :=
  ⟨64, 80, (28, 34, 39), (14, 18, 41), (1, 8, 7), (19, 61, 6)⟩

private def primes : List Nat :=
  (List.range 410).filter fun n => n ≥ 2 && (List.range n).all fun d => d < 2 || n % d ≠ 0

/-- The first `width` bits behind the point of a `k`th root. -/
def rootFraction (k width n : Nat) : Nat :=
  Modular.floorRoot k (width + 10) (n * Nat.pow 2 (k * width)) % Nat.pow 2 width

/-- The constants of the rounds: cube roots of the first primes. -/
def Family.roundConstants (f : Family) : List Nat :=
  (primes.take f.rounds).map (rootFraction 3 f.width)

private def constants32 : List Nat := words32.roundConstants
private def constants64 : List Nat := words64.roundConstants

/-- The eight words that are carried from block to block. -/
structure State (width : Nat) where
  a : BitVec width
  b : BitVec width
  c : BitVec width
  d : BitVec width
  e : BitVec width
  f : BitVec width
  g : BitVec width
  h : BitVec width

namespace Family

variable (f : Family)

/-- Turns a word by three distances and adds the results without carry. -/
def turns (by3 : Nat × Nat × Nat) (x : BitVec f.width) : BitVec f.width :=
  x.rotateRight by3.1 ^^^ x.rotateRight by3.2.1 ^^^ x.rotateRight by3.2.2

/-- Turns a word by two distances and shifts it by the third. -/
def mix (by3 : Nat × Nat × Nat) (x : BitVec f.width) : BitVec f.width :=
  x.rotateRight by3.1 ^^^ x.rotateRight by3.2.1 ^^^ x >>> by3.2.2

/-- Extends the sixteen words of a block, given last word first, by `n` words. -/
def extend (n : Nat) (words : List (BitVec f.width)) : List (BitVec f.width) :=
  match n with
  | 0 => words
  | n + 1 =>
    let back (i : Nat) := words.getD (i - 1) 0
    extend n
      ((f.mix f.mixHigh (back 2) + back 7 + f.mix f.mixLow (back 15) + back 16) :: words)

def round (s : State f.width) (constant : Nat) (word : BitVec f.width) : State f.width :=
  let choice := s.e &&& s.f ^^^ ~~~s.e &&& s.g
  let majority := s.a &&& s.b ^^^ s.a &&& s.c ^^^ s.b &&& s.c
  let t := s.h + f.turns f.sumE s.e + choice + BitVec.ofNat f.width constant + word
  ⟨t + f.turns f.sumA s.a + majority, s.a, s.b, s.c, s.d + t, s.e, s.f, s.g⟩

/-- Takes one block of sixteen words into the state. -/
def compress (constants : List Nat) (s : State f.width) (block : List (BitVec f.width)) :
    State f.width :=
  let words := (f.extend (f.rounds - 16) block.reverse).reverse
  let t := (constants.zip words).foldl (fun s (k, w) => f.round s k w) s
  ⟨s.a + t.a, s.b + t.b, s.c + t.c, s.d + t.d, s.e + t.e, s.f + t.f, s.g + t.g, s.h + t.h⟩

/-- Octets of a block. -/
def blockSize : Nat := f.width * 2

/-- The message, an octet 128, zeros, and the number of bits in a field of two words. -/
def pad (message : Octets) : Octets :=
  let lengthSize := f.width / 4
  let used := message.length + 1 + lengthSize
  let zeros := (f.blockSize - used % f.blockSize) % f.blockSize
  message ++ 128 :: List.replicate zeros 0 ++ Octets.ofNatWidth lengthSize (message.length * 8)

/-- Cuts octets into words. -/
def words (count : Nat) (bs : Octets) : List (BitVec f.width) :=
  match count with
  | 0 => []
  | count + 1 =>
    let (word, rest) := bs.splitAt (f.width / 8)
    BitVec.ofNat f.width (Octets.toNat word) :: words count rest

def absorb (constants : List Nat) (count : Nat) (s : State f.width) (bs : Octets) :
    State f.width :=
  match count with
  | 0 => s
  | count + 1 =>
    let (block, rest) := bs.splitAt f.blockSize
    absorb constants count (f.compress constants s (f.words 16 block)) rest

/-- The octets of all words of the state after the padded message. -/
def hash (constants : List Nat) (start : State f.width) (message : Octets) : Octets :=
  let padded := f.pad message
  let s := f.absorb constants (padded.length / f.blockSize) start padded
  [s.a, s.b, s.c, s.d, s.e, s.f, s.g, s.h].flatMap fun x =>
    Octets.ofNatWidth (f.width / 8) x.toNat

/-- The words to start with: square roots of eight primes from the given place on. -/
def start (place : Nat) : State f.width :=
  let word (i : Nat) := BitVec.ofNat f.width (rootFraction 2 f.width (primes.getD (place + i) 0))
  ⟨word 0, word 1, word 2, word 3, word 4, word 5, word 6, word 7⟩

end Family

private def start256 : State words32.width := words32.start 0
private def start384 : State words64.width := words64.start 8
private def start512 : State words64.width := words64.start 0

end CredentialRotation.Sha2

namespace CredentialRotation

/-- The digests that signatures are made over. -/
inductive Digest
  | sha256
  | sha384
  | sha512
  deriving DecidableEq, Repr

namespace Digest

open Sha2

/-- The digest of a message. -/
def of : Digest → Octets → Octets
  | .sha256, message => words32.hash constants32 start256 message
  | .sha384, message => (words64.hash constants64 start384 message).take 48
  | .sha512, message => words64.hash constants64 start512 message

/-- The octets of a digest. -/
def size : Digest → Nat
  | .sha256 => 32
  | .sha384 => 48
  | .sha512 => 64

/-- The last arc of a digest's identifier. -/
def arc : Digest → Nat
  | .sha256 => 1
  | .sha384 => 2
  | .sha512 => 3

end Digest
end CredentialRotation
