import CredentialRotation.Configuration.Failure
import CredentialRotation.Log

/-!
How much of the log is written, and the form of its lines.
-/
namespace CredentialRotation

/-- Nothing, or all events up to a level of urgency. -/
inductive Threshold
  | off
  | upTo (level : Level)
  deriving DecidableEq, Repr

namespace Threshold

/-- The word for a threshold, in capitals. -/
def word : Threshold → String
  | .off => "OFF"
  | .upTo level => level.word

def ofWord? : String → Option Threshold
  | "off" => some .off
  | "trace" => some (.upTo .trace)
  | "debug" => some (.upTo .debug)
  | "info" => some (.upTo .info)
  | "warn" => some (.upTo .warn)
  | "error" => some (.upTo .error)
  | _ => none

def ofWord (word : String) : Except SetupFailure Threshold :=
  match ofWord? word with
  | some t => .ok t
  | none => .error (.unknownLevel word)

def admits : Threshold → Level → Bool
  | .off, _ => false
  | .upTo most, level => level.verbosity ≤ most.verbosity

/-- The events that are written, in order. -/
def select (t : Threshold) (events : List Event) : List Event :=
  events.filter fun e => t.admits e.level

end Threshold

/-- The number of a level's color on a terminal. -/
private def Level.color : Level → Nat
  | .error => 31
  | .warn => 33
  | .info => 32
  | .debug => 35
  | .trace => 36

private def Level.padded (level : Level) : String :=
  level.word ++ String.ofList (List.replicate (5 - level.word.length) ' ')

/-- A line of the log behind the time: the level in color, the part of the program, the message. -/
def Event.consoleText (e : Event) : String :=
  s!"[\x1b[{e.level.color}m{e.level.padded}\x1b[0m][{e.target}] {e.message}"

end CredentialRotation
