import CredentialRotation.Calendar
import CredentialRotation.Toml.Reader
import CredentialRotation.Toml.Value

/-!
Scalars without quotes: whole numbers in four bases, floating-point numbers, truth values, and dates
and times of day.
-/
namespace CredentialRotation.Toml.Bare

/-- A character of a scalar without quotes. -/
def isBare (c : Char) : Bool :=
  c.isAlphanum || c = '+' || c = '-' || c = '_' || c = '.' || c = ':'

def isHex (c : Char) : Bool :=
  c.isDigit || ('a' ≤ c && c ≤ 'f') || ('A' ≤ c && c ≤ 'F')

def isOctal (c : Char) : Bool := '0' ≤ c && c ≤ '7'
def isBinary (c : Char) : Bool := c = '0' || c = '1'

/-- Digits without the underscores, each of which stands between two digits. -/
def ungrouped? (isDigit : Char → Bool) : List Char → Option (List Char)
  | [] => none
  | [c] => if isDigit c then some [c] else none
  | c :: '_' :: cs => if isDigit c then (ungrouped? isDigit cs).map (c :: ·) else none
  | c :: cs => if isDigit c then (ungrouped? isDigit cs).map (c :: ·) else none

def digitValue (c : Char) : Nat :=
  if c.isDigit then c.toNat - '0'.toNat else c.toLower.toNat - 'a'.toNat + 10

def valueIn (base : Nat) (digits : List Char) : Nat :=
  digits.foldl (fun n c => base * n + digitValue c) 0

/-- Whole numbers that some reader can hold. -/
def integer (n : Int) : Scalar :=
  if -(Nat.pow 2 127) ≤ n ∧ n < Nat.pow 2 128 then .integer n else .outOfRange

def startsWithZero (digits : List Char) : Bool :=
  match digits with
  | '0' :: _ :: _ => true
  | _ => false

/-- A number in base ten starts with a zero only if it has no other digit. -/
def wholeDigits? (cs : List Char) : Option (List Char) := do
  let digits ← ungrouped? Char.isDigit cs
  if startsWithZero digits then none else some digits

def integer? : List Char → Option Scalar
  | '0' :: 'x' :: cs => (ungrouped? isHex cs).map fun ds => integer (valueIn 16 ds)
  | '0' :: 'o' :: cs => (ungrouped? isOctal cs).map fun ds => integer (valueIn 8 ds)
  | '0' :: 'b' :: cs => (ungrouped? isBinary cs).map fun ds => integer (valueIn 2 ds)
  | cs => do
    let (negative, cs) := Decimal.splitSign cs
    let n := valueIn 10 (← wholeDigits? cs)
    return integer (if negative then -(n : Int) else n)

/-- The exponent behind its letter; without a letter it is zero. -/
def exponent? : List Char → Option Int
  | [] => some 0
  | c :: cs => do
    if c ≠ 'e' ∧ c ≠ 'E' then none
    let (negative, cs) := Decimal.splitSign cs
    let n := valueIn 10 (← ungrouped? Char.isDigit cs)
    return if negative then -(n : Int) else n

def isMark (c : Char) : Bool := c = '.' || c = 'e' || c = 'E'

/-- A number with a fraction or an exponent. -/
def decimal? (cs : List Char) : Option Decimal := do
  let (negative, cs) := Decimal.splitSign cs
  let whole ← wholeDigits? (cs.takeWhile (!isMark ·))
  match cs.dropWhile (!isMark ·) with
  | [] => none
  | '.' :: cs =>
    let fraction ← ungrouped? Char.isDigit (cs.takeWhile (!isMark ·))
    let e ← exponent? (cs.dropWhile (!isMark ·))
    return ⟨negative, valueIn 10 (whole ++ fraction), e - fraction.length⟩
  | cs => return ⟨negative, valueIn 10 whole, ← exponent? cs⟩

def float? (cs : List Char) : Option Scalar := do
  let (negative, rest) := Decimal.splitSign cs
  match rest with
  | ['i', 'n', 'f'] => return .float (.infinite negative)
  | ['n', 'a', 'n'] => return .float .notANumber
  | _ =>
    match Binary.ofDecimal .double (← decimal? cs) with
    | .infinite _ => return .outOfRange
    | x => return .float x

/-- A number of a fixed count of digits. -/
def digits? (count : Nat) : Reader Nat := fun cs =>
  let digits := cs.take count
  if digits.length = count ∧ digits.all Char.isDigit then some (valueIn 10 digits, cs.drop count)
  else none

def date? : Reader (Nat × Nat × Nat) := fun cs => do
  let (year, cs) ← digits? 4 cs
  let (month, cs) ← digits? 2 (← after? '-' cs)
  let (day, cs) ← digits? 2 (← after? '-' cs)
  if day = 0 ∨ CalendarTime.daysInMonth year month < day then none
  return ((year, month, day), cs)

def isDate (cs : List Char) : Bool :=
  match date? cs with
  | some (_, []) => true
  | _ => false

/-- A fraction of a second has at least one digit. -/
def afterFraction? : List Char → Option (List Char)
  | '.' :: cs =>
    if (cs.takeWhile Char.isDigit).isEmpty then none else some (cs.dropWhile Char.isDigit)
  | cs => some cs

/-- A time of day. The seconds may be left out, and there may be a leap second. -/
def afterClock? (cs : List Char) : Option (List Char) := do
  let (hour, cs) ← digits? 2 cs
  let (minute, cs) ← digits? 2 (← after? ':' cs)
  if hour > 23 ∨ minute > 59 then none
  match cs with
  | ':' :: cs =>
    let (second, cs) ← digits? 2 cs
    if second > 60 then none
    afterFraction? cs
  | cs => return cs

/-- The distance from universal time, or nothing. -/
def isOffset : List Char → Bool
  | [] | ['Z'] | ['z'] => true
  | sign :: cs => (sign = '+' || sign = '-') && Option.isSome do
    let (hours, cs) ← digits? 2 cs
    let (minutes, cs) ← digits? 2 (← after? ':' cs)
    if hours > 23 ∨ minutes > 59 ∨ ¬ cs.isEmpty then none
    return ()

/-- A date, a time of day, or a date and a time of day with or without an offset. -/
def isMoment (cs : List Char) : Bool :=
  match date? cs with
  | none => afterClock? cs = some []
  | some (_, []) => true
  | some (_, separator :: cs) =>
    (separator = 'T' || separator = 't' || separator = ' ') &&
      (afterClock? cs).any isOffset

/-- The scalar that is written by some characters without quotes. -/
def ofToken? (cs : List Char) : Option Scalar :=
  if cs = "true".toList then some (.boolean true)
  else if cs = "false".toList then some (.boolean false)
  else integer? cs <|> float? cs <|> if isMoment cs then some .moment else none

/-- A scalar without quotes. A date and a time of day may be held apart by one blank. -/
def read : Reader Scalar := fun cs =>
  let token := cs.takeWhile isBare
  let rest := cs.dropWhile isBare
  let dated := match rest with
    | ' ' :: more =>
      if isDate token && more.head?.any Char.isDigit then
        some (token ++ ' ' :: more.takeWhile isBare, more.dropWhile isBare)
      else none
    | _ => none
  let (token, rest) := dated.getD (token, rest)
  (ofToken? token).map (·, rest)

end CredentialRotation.Toml.Bare
