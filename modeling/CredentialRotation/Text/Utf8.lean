import CredentialRotation.Octets

/-!
UTF-8 in both directions. The lossy reader replaces every maximal ill-formed part by U+FFFD and
therefore always answers; the strict reader refuses ill-formed input.
-/
namespace CredentialRotation.Utf8

/-- What stands at the front of an octet string: a character and the octets after its first,
or the length after the first octet of a part that no character starts with. -/
inductive Front
  | scalar (c : Char) (more : Nat)
  | broken (more : Nat)
  deriving DecidableEq, Repr

/-- The six bits that an octet behind the first adds. -/
def low (b : UInt8) : Nat := b.toNat % 64

def between (lo hi : Nat) (b : UInt8) : Bool :=
  lo ≤ b.toNat && b.toNat ≤ hi

/-- An octet that can stand behind the first of a character. -/
def isTail (b : UInt8) : Bool := between 0x80 0xbf b

/-- Reads what follows the first octet of three, whose number is `b`. -/
def three (b lo hi : Nat) : Octets → Front
  | x :: y :: _ =>
    if !between lo hi x then .broken 0
    else if !isTail y then .broken 1
    else .scalar (Char.ofNat (b % 16 * 4096 + low x * 64 + low y)) 2
  | [x] => if between lo hi x then .broken 1 else .broken 0
  | [] => .broken 0

/-- Reads what follows the first octet of four, whose number is `b`. -/
def four (b lo hi : Nat) : Octets → Front
  | x :: y :: z :: _ =>
    if !between lo hi x then .broken 0
    else if !isTail y then .broken 1
    else if !isTail z then .broken 2
    else .scalar (Char.ofNat (b % 8 * 262144 + low x * 4096 + low y * 64 + low z)) 3
  | [x, y] => if !between lo hi x then .broken 0 else if isTail y then .broken 2 else .broken 1
  | [x] => if between lo hi x then .broken 1 else .broken 0
  | [] => .broken 0

/-- Reads the front. The second octet's range rules out overlong forms, surrogates and numbers
past U+10FFFF. -/
def front (first : UInt8) (rest : Octets) : Front :=
  let b := first.toNat
  if b < 0x80 then .scalar (Char.ofNat b) 0
  else if b < 0xc2 then .broken 0
  else if b < 0xe0 then
    match rest with
    | x :: _ => if isTail x then .scalar (Char.ofNat (b % 32 * 64 + low x)) 1 else .broken 0
    | [] => .broken 0
  else if b = 0xe0 then three b 0xa0 0xbf rest
  else if b = 0xed then three b 0x80 0x9f rest
  else if b < 0xf0 then three b 0x80 0xbf rest
  else if b = 0xf0 then four b 0x90 0xbf rest
  else if b < 0xf4 then four b 0x80 0xbf rest
  else if b = 0xf4 then four b 0x80 0x8f rest
  else .broken 0

/-- Every maximal ill-formed part becomes one U+FFFD. -/
def decodeLossy : Octets → List Char
  | [] => []
  | b :: rest =>
    match front b rest with
    | .scalar c more => c :: decodeLossy (rest.drop more)
    | .broken more => '\ufffd' :: decodeLossy (rest.drop more)
  termination_by bs => bs.length
  decreasing_by all_goals simp only [List.length_cons, List.length_drop]; omega

/-- Only well-formed input has a text. -/
def decode? : Octets → Option (List Char)
  | [] => some []
  | b :: rest =>
    match front b rest with
    | .scalar c more => (decode? (rest.drop more)).map (c :: ·)
    | .broken _ => none
  termination_by bs => bs.length
  decreasing_by all_goals simp only [List.length_cons, List.length_drop]; omega

/-- The octets of one character. -/
def encodeChar (c : Char) : Octets :=
  let n := c.toNat
  let tail (shift : Nat) : UInt8 := UInt8.ofNat (0x80 + n / shift % 64)
  if n < 0x80 then [UInt8.ofNat n]
  else if n < 0x800 then [UInt8.ofNat (0xc0 + n / 64), tail 1]
  else if n < 0x10000 then [UInt8.ofNat (0xe0 + n / 4096), tail 64, tail 1]
  else [UInt8.ofNat (0xf0 + n / 262144), tail 4096, tail 64, tail 1]

/-- The octets of a text. -/
def encode (cs : List Char) : Octets :=
  cs.flatMap encodeChar

/-- The octets of a string. -/
def ofString (s : String) : Octets :=
  encode s.toList

end CredentialRotation.Utf8
