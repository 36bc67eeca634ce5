import CredentialRotation.Pattern.CharSet

/-!
Patterns of text, and where a match with one can end. A match is found by following all places that
can be reached at the same time, so that no pattern takes longer than the square of its subject.
-/
namespace CredentialRotation

namespace Pattern

/-- A condition on the characters on both sides of a place. -/
inductive Anchor
  | start
  | finish
  | lineStart (pairs : Bool)
  | lineEnd (pairs : Bool)
  | wordEdge (chars : CharSet)
  | noWordEdge (chars : CharSet)
  | wordStart (chars : CharSet)
  | wordEnd (chars : CharSet)
  | wordNotBefore (chars : CharSet)
  | wordNotAfter (chars : CharSet)
  deriving DecidableEq, Repr

/-- Whether an anchor holds between two characters, one of which is missing at either end. Where
carriage returns count as line ends, no line begins or ends within a pair of one and a line feed. -/
def Anchor.holds (a : Anchor) (before after : Option Char) : Bool :=
  let isWord (chars : CharSet) (c : Option Char) := c.any chars.holds
  match a with
  | .start => before.isNone
  | .finish => after.isNone
  | .lineStart false => before.isNone || before = some '\n'
  | .lineStart true =>
    before.isNone || before = some '\n' || (before = some '\r' && after ≠ some '\n')
  | .lineEnd false => after.isNone || after = some '\n'
  | .lineEnd true =>
    after.isNone || after = some '\r' || (after = some '\n' && before ≠ some '\r')
  | .wordEdge chars => isWord chars before != isWord chars after
  | .noWordEdge chars => isWord chars before == isWord chars after
  | .wordStart chars => !isWord chars before && isWord chars after
  | .wordEnd chars => isWord chars before && !isWord chars after
  | .wordNotBefore chars => !isWord chars before
  | .wordNotAfter chars => !isWord chars after

end Pattern

/-- A pattern. A repetition without an upper bound may go on for ever. -/
inductive Pattern
  | empty
  | one (set : Pattern.CharSet)
  | look (anchor : Pattern.Anchor)
  | sequence (first second : Pattern)
  | choice (first second : Pattern)
  | repeated (least : Nat) (most : Option Nat) (body : Pattern)
  deriving DecidableEq, Repr

namespace Pattern

/-- Goes on from new places as long as that leads to places not seen before. -/
def closure (step : List Nat → List Nat) : (rounds : Nat) → (new seen : List Nat) → List Nat
  | 0, _, seen => seen
  | rounds + 1, new, seen =>
    let fresh := ((step new).filter fun i => !seen.contains i).eraseDups
    if fresh.isEmpty then seen else closure step rounds fresh (fresh ++ seen)

/-- The character in front of a place. -/
def before (subject : Array Char) (i : Nat) : Option Char :=
  if i = 0 then none else subject[i - 1]?

/-- The places at which matches from some places on can end. -/
def ends (subject : Array Char) : Pattern → List Nat → List Nat
  | .empty, starts => starts
  | .one set, starts => (starts.filter fun i => (subject[i]?).any set.holds).map (· + 1)
  | .look anchor, starts => starts.filter fun i => anchor.holds (before subject i) subject[i]?
  | .sequence p q, starts => q.ends subject (p.ends subject starts)
  | .choice p q, starts => (p.ends subject starts ++ q.ends subject starts).eraseDups
  | .repeated least most p, starts =>
    let step := p.ends subject
    let reached := Nat.repeat step least starts
    let rounds := match most with
      | none => subject.size + 1
      | some most => most - least
    closure step rounds reached reached

/-- Whether a pattern matches somewhere in a text. -/
def occursIn (p : Pattern) (text : String) : Bool :=
  let subject := text.toList.toArray
  !(p.ends subject (List.range (subject.size + 1))).isEmpty

end Pattern
end CredentialRotation
