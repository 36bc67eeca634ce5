/-!
Spans of time in whole nanoseconds, and the text that gives them in the largest fitting unit.
-/
namespace CredentialRotation

/-- A span of time. -/
structure Duration where
  nanos : Nat
  deriving DecidableEq, Repr

namespace Duration

def ofMillis (ms : Nat) : Duration := ⟨ms * 1000000⟩
def ofSeconds (s : Nat) : Duration := ⟨s * 1000000000⟩

def seconds (d : Duration) : Nat := d.nanos / 1000000000
def subsecondNanos (d : Duration) : Nat := d.nanos % 1000000000

/-- The digits behind the point of `part / 10 ^ places`, without trailing zeros. -/
private def fraction (places part : Nat) : String :=
  let digits := (Nat.toDigits 10 part)
  let padded := List.replicate (places - digits.length) '0' ++ digits
  String.ofList (padded.reverse.dropWhile (· = '0')).reverse

private def inUnit (whole places part : Nat) (unit : String) : String :=
  let behind := if part = 0 then "" else fraction places part
  if behind.isEmpty then s!"{whole}{unit}" else s!"{whole}.{behind}{unit}"

/-- Whole and fraction in seconds, milliseconds, microseconds or nanoseconds. -/
def shown (d : Duration) : String :=
  let n := d.nanos
  if n ≥ 1000000000 then inUnit (n / 1000000000) 9 (n % 1000000000) "s"
  else if n ≥ 1000000 then inUnit (n / 1000000) 6 (n % 1000000) "ms"
  else if n ≥ 1000 then inUnit (n / 1000) 3 (n % 1000) "µs"
  else inUnit n 0 0 "ns"

end Duration
end CredentialRotation
