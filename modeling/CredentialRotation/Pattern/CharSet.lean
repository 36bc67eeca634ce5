import CredentialRotation.Text.Blank
import CredentialRotation.Text.LetterCase
import CredentialRotation.Text.WordChar

/-!
Sets of characters, as patterns describe them.
-/
namespace CredentialRotation.Pattern

inductive CharSet
  | range (low high : Char)
  | digit
  | blank
  | word
  | complement (a : CharSet)
  | union (a b : CharSet)
  | common (a b : CharSet)
  | difference (a b : CharSet)
  | oneOf (a b : CharSet)
  | anyCase (a : CharSet)
  deriving DecidableEq, Repr

namespace CharSet

/-- Whether a character belongs to the set. -/
def holds : CharSet → Char → Bool
  | .range low high, c => low ≤ c && c ≤ high
  | .digit, c => isDecimalDigit c
  | .blank, c => isBlank c
  | .word, c => isWordChar c
  | .complement a, c => !a.holds c
  | .union a b, c => a.holds c || b.holds c
  | .common a b, c => a.holds c && b.holds c
  | .difference a b, c => a.holds c && !b.holds c
  | .oneOf a b, c => a.holds c != b.holds c
  | .anyCase a, c => (caseVariants c).any a.holds

def single (c : Char) : CharSet := .range c c

/-- Characters in order never come down to a lower one. -/
def empty : CharSet := .range '\x01' '\x00'

def all : CharSet := .complement empty

def ofRanges (ranges : List (Char × Char)) : CharSet :=
  ranges.foldr (fun (low, high) a => .union (.range low high) a) empty

def asciiDigit : CharSet := .range '0' '9'
def asciiBlank : CharSet := ofRanges [('\t', '\r'), (' ', ' ')]
def asciiWord : CharSet := ofRanges [('a', 'z'), ('A', 'Z'), ('0', '9'), ('_', '_')]

/-- The sets of ASCII characters that have a name. -/
def named : List (String × CharSet) :=
  [("alnum", ofRanges [('0', '9'), ('A', 'Z'), ('a', 'z')]),
   ("alpha", ofRanges [('A', 'Z'), ('a', 'z')]),
   ("ascii", .range '\x00' '\x7f'),
   ("blank", ofRanges [('\t', '\t'), (' ', ' ')]),
   ("cntrl", ofRanges [('\x00', '\x1f'), ('\x7f', '\x7f')]),
   ("digit", asciiDigit),
   ("graph", .range '!' '~'),
   ("lower", .range 'a' 'z'),
   ("print", .range ' ' '~'),
   ("punct", ofRanges [('!', '/'), (':', '@'), ('[', '\x60'), ('\x7b', '~')]),
   ("space", asciiBlank),
   ("upper", .range 'A' 'Z'),
   ("word", asciiWord),
   ("xdigit", ofRanges [('0', '9'), ('A', 'F'), ('a', 'f')])]

end CharSet
end CredentialRotation.Pattern
