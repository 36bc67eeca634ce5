import CredentialRotation.Pattern.Matching

/-!
The text of patterns. Besides characters there are the dot, anchors, sets in brackets, groups with
or without a name, choices, repetitions, escapes, and options that hold up to the end of their
group.
-/
namespace CredentialRotation.Pattern

/-- The options that hold at a place of a pattern. -/
structure Options where
  anyCase : Bool
  lines : Bool
  dotIsAll : Bool
  spaced : Bool
  pairs : Bool
  ascii : Bool
  deriving DecidableEq, Repr

namespace Options

def initial : Options := ⟨false, false, false, false, false, false⟩

/-- Turns on or off what a letter stands for. The preference for short matches does not change
whether there is one. -/
def put? (o : Options) (isOn : Bool) : Char → Option Options
  | 'i' => some { o with anyCase := isOn }
  | 'm' => some { o with lines := isOn }
  | 's' => some { o with dotIsAll := isOn }
  | 'x' => some { o with spaced := isOn }
  | 'R' => some { o with pairs := isOn }
  | 'u' => some { o with ascii := !isOn }
  | 'U' => some o
  | _ => none

def word (o : Options) : CharSet := if o.ascii then .asciiWord else .word
def digit (o : Options) : CharSet := if o.ascii then .asciiDigit else .digit
def blank (o : Options) : CharSet := if o.ascii then .asciiBlank else .blank

def folded (o : Options) (a : CharSet) : CharSet := if o.anyCase then .anyCase a else a

/-- All characters outside of a set. Among ASCII characters alone there is no such set. -/
def complement? (o : Options) (a : CharSet) : Option CharSet :=
  if o.ascii then none else some (.complement a)

def dot? (o : Options) : Option CharSet :=
  if o.dotIsAll then o.complement? .empty
  else if o.pairs then o.complement? (.union (.single '\n') (.single '\r'))
  else o.complement? (.single '\n')

/-- What follows the blanks and comments that a spaced pattern may hold anywhere. -/
def skip (o : Options) : List Char → List Char
  | [] => []
  | c :: cs =>
    if !o.spaced then c :: cs
    else if isBlank c then o.skip cs
    else if c = '#' then skipComment o cs
    else c :: cs
where
  skipComment (o : Options) : List Char → List Char
    | [] => []
    | c :: cs => if c = '\n' then o.skip cs else skipComment o cs

end Options

/-- What a backslash and the characters behind it stand for. -/
inductive Escape
  | char (c : Char)
  | set (a : CharSet)
  | anchor (a : Anchor)

private def hexValue? (c : Char) : Option Nat :=
  if c.isDigit then some (c.toNat - '0'.toNat)
  else if 'a' ≤ c ∧ c ≤ 'f' then some (c.toNat - 'a'.toNat + 10)
  else if 'A' ≤ c ∧ c ≤ 'F' then some (c.toNat - 'A'.toNat + 10)
  else none

private def codePoint? (digits : List Char) : Option Escape := do
  let values ← digits.mapM hexValue?
  let n := values.foldl (fun n d => 16 * n + d) 0
  if values.isEmpty ∨ ¬ n.isValidChar then none
  return .char (Char.ofNat n)

/-- A character by its number: a fixed count of digits, or any count between braces. -/
private def readCodePoint (count : Nat) (cs : List Char) : Option (Escape × List Char) :=
  match cs with
  | '{' :: cs =>
    match cs.dropWhile (· ≠ '}') with
    | [] => none
    | _ :: rest => (codePoint? (cs.takeWhile (· ≠ '}'))).map (·, rest)
  | cs =>
    if (cs.take count).length < count then none
    else (codePoint? (cs.take count)).map (·, cs.drop count)

/-- The edges of words that have a name. -/
private def edge? (o : Options) (name : String) : Option Anchor :=
  match name with
  | "start" => some (.wordStart o.word)
  | "end" => some (.wordEnd o.word)
  | "start-half" => some (.wordNotBefore o.word)
  | "end-half" => some (.wordNotAfter o.word)
  | _ => none

private def isEdgeNameChar (c : Char) : Bool := c.isAlpha || c = '-'

/-- An edge of a word. Braces that do not start like a name stand for a repetition. -/
private def readEdge (o : Options) (cs : List Char) : Option (Escape × List Char) :=
  let plain := Escape.anchor (.wordEdge o.word)
  match cs with
  | '{' :: more =>
    let name := more.takeWhile isEdgeNameChar
    if name.isEmpty then some (plain, cs)
    else match more.dropWhile isEdgeNameChar with
      | '}' :: rest => (edge? o (String.ofList name)).map fun a => (.anchor a, rest)
      | _ => none
  | cs => some (plain, cs)

/-- Reads behind a backslash. Marks may be escaped, letters and digits only where they mean
something. -/
private def readEscape (o : Options) : List Char → Option (Escape × List Char)
  | [] => none
  | c :: cs =>
    let set (a : CharSet) : Option (Escape × List Char) := some (.set a, cs)
    let anchor (a : Anchor) : Option (Escape × List Char) := some (.anchor a, cs)
    match c with
    | 'x' => readCodePoint 2 cs
    | 'u' => readCodePoint 4 cs
    | 'U' => readCodePoint 8 cs
    | 'd' => set o.digit
    | 's' => set o.blank
    | 'w' => set o.word
    | 'D' => (o.complement? o.digit).bind set
    | 'S' => (o.complement? o.blank).bind set
    | 'W' => (o.complement? o.word).bind set
    | 'a' => some (.char '\x07', cs)
    | 'f' => some (.char '\x0c', cs)
    | 't' => some (.char '\t', cs)
    | 'n' => some (.char '\n', cs)
    | 'r' => some (.char '\r', cs)
    | 'v' => some (.char '\x0b', cs)
    | 'A' => anchor .start
    | 'z' => anchor .finish
    | 'b' => readEdge o cs
    | 'B' => anchor (.noWordEdge o.word)
    | '<' => anchor (.wordStart o.word)
    | '>' => anchor (.wordEnd o.word)
    | c => if c.toNat < 0x80 ∧ ¬ c.isAlphanum then some (.char c, cs) else none

/-- A member of a set in brackets: one character, or a set with a name of its own. -/
private def readMember (o : Options) : List Char → Option ((Char ⊕ CharSet) × List Char)
  | [] => none
  | '\\' :: cs => do
    match ← readEscape o cs with
    | (.char c, rest) => return (.inl c, rest)
    | (.set a, rest) => return (.inr a, rest)
    | (.anchor _, _) => none
  | c :: cs => some (.inl c, cs)

private def memberSet : Char ⊕ CharSet → CharSet
  | .inl c => .single c
  | .inr a => a

/-- A member, or all characters between two. A hyphen in front of the end or of another hyphen makes
no range. -/
private def readRange (o : Options) (cs : List Char) : Option (CharSet × List Char) := do
  let (first, rest) ← readMember o cs
  match o.skip rest with
  | [] => none
  | '-' :: more =>
    match o.skip more with
    | [] => none
    | ']' :: _ | '-' :: _ => return (memberSet first, '-' :: more)
    | more =>
      match first, ← readMember o more with
      | .inl low, (.inl high, rest) =>
        if high < low then none
        return (.range low high, rest)
      | _, _ => none
  | rest => return (memberSet first, rest)

/-- A set of ASCII characters by its name between colons. -/
private def readNamed (o : Options) : List Char → Option (CharSet × List Char)
  | '[' :: ':' :: cs => do
    let (negated, cs) := match cs with
      | '^' :: cs => (true, cs)
      | cs => (false, cs)
    let a ← CharSet.named.lookup (String.ofList (cs.takeWhile (· ≠ ':')))
    match cs.dropWhile (· ≠ ':') with
    | ':' :: ']' :: rest => return (← if negated then o.complement? a else some a, rest)
    | _ => none
  | _ => none

/-- How two sets in one pair of brackets are joined. -/
private abbrev Join := CharSet → CharSet → CharSet

/-- The first members of a set: hyphens, or else a closing bracket, stand for themselves there. -/
private def readFirstMembers (o : Options) (cs : List Char) : CharSet × List Char :=
  match o.skip cs with
  | '-' :: cs => (.single '-', o.skip (cs.dropWhile (· = '-')))
  | ']' :: cs => (.single ']', cs)
  | cs => (.empty, cs)

/-- The rest of a set in brackets, with what its members make up so far, and what they are still to
be joined to; `fuel` bounds the number of steps. -/
private def readSet (o : Options) : (fuel : Nat) → (negated : Bool) → (join : CharSet → CharSet) →
    (members : CharSet) → List Char → Option (CharSet × List Char)
  | 0, _, _, _, _ => none
  | fuel + 1, negated, join, members, cs =>
    let joined (f : Join) (rest : List Char) :=
      let left := o.folded (join members)
      readSet o fuel negated (fun right => f left (o.folded right)) .empty rest
    match o.skip cs with
    | [] => none
    | ']' :: rest => do
      let a := o.folded (join members)
      return (← if negated then o.complement? a else some a, rest)
    | '&' :: '&' :: rest => joined .common rest
    | '-' :: '-' :: rest => joined .difference rest
    | '~' :: '~' :: rest => joined .oneOf rest
    | '[' :: rest => do
      let (a, rest) ← match readNamed o ('[' :: rest) with
        | some found => some found
        | none =>
          let (inner, rest) := match o.skip rest with
            | '^' :: rest => (true, rest)
            | rest => (false, rest)
          let (first, rest) := readFirstMembers o rest
          readSet o fuel inner id first rest
      readSet o fuel negated join (.union members a) rest
    | rest => do
      let (a, rest) ← readRange o rest
      readSet o fuel negated join (.union members a) rest

/-- A set behind its opening bracket. -/
private def readBrackets (o : Options) (cs : List Char) : Option (CharSet × List Char) :=
  let (negated, rest) := match o.skip cs with
    | '^' :: rest => (true, rest)
    | rest => (false, rest)
  let (first, rest) := readFirstMembers o rest
  readSet o (cs.length + 1) negated id first rest

/-- A part of a pattern that is no group and no repetition. -/
private def readAtom (o : Options) : List Char → Option (Pattern × List Char)
  | [] => none
  | '.' :: cs => o.dot?.map fun a => (.one a, cs)
  | '^' :: cs => some (.look (if o.lines then .lineStart o.pairs else .start), cs)
  | '$' :: cs => some (.look (if o.lines then .lineEnd o.pairs else .finish), cs)
  | '[' :: cs => (readBrackets o cs).map fun (a, rest) => (.one a, rest)
  | '\\' :: cs => do
    match ← readEscape o cs with
    | (.char c, rest) => return (.one (o.folded (.single c)), rest)
    | (.set a, rest) => return (.one a, rest)
    | (.anchor a, rest) => return (.look a, rest)
  | c :: cs => some (.one (o.folded (.single c)), cs)

private def isNameStart (c : Char) : Bool :=
  c = '_' || (isWordChar c && !isDecimalDigit c)

private def isNameChar (c : Char) : Bool :=
  isWordChar c || c = '.' || c = '[' || c = ']'

/-- The name of a group, up to its closing angle; no two groups have one name. -/
private def readName (names : List String) (cs : List Char) : Option (String × List Char) :=
  let name := cs.takeWhile isNameChar
  if !name.head?.any isNameStart || names.contains (String.ofList name) then none
  else match cs.dropWhile isNameChar with
    | '>' :: rest => some (String.ofList name, rest)
    | _ => none

/-- Options by their letters, up to a colon or a closing parenthesis. A hyphen, of which there is
one at most, turns off what follows it, and no letter comes twice. -/
private def readOptions (o : Options) (isOn : Bool) (seen : List Char) :
    List Char → Option (Options × List Char)
  | [] => none
  | c :: cs =>
    if c = ':' ∨ c = ')' then
      if seen.head? = some '-' then none else some (o, c :: cs)
    else if seen.contains c then none
    else if c = '-' then readOptions o false (c :: seen) cs
    else (o.put? isOn c).bind fun o => readOptions o isOn (c :: seen) cs

/-- What stands behind an opening parenthesis: a group, with the names used so far, or options for
the rest of the group around it. -/
private def readOpening (o : Options) (names : List String) :
    List Char → Option ((List String ⊕ Unit) × Options × List Char)
  | '?' :: 'P' :: '<' :: cs | '?' :: '<' :: cs => do
    let (name, rest) ← readName names cs
    return (.inl (name :: names), o, rest)
  | '?' :: cs => do
    match ← readOptions o true [] cs with
    | (o, ':' :: rest) => return (.inl names, o, rest)
    | (o, _ :: rest) => if cs.head? = some ')' then none else return (.inr (), o, rest)
    | (_, []) => none
  | cs => some (.inl names, o, cs)

private def number? (o : Options) (cs : List Char) : Option (Nat × List Char) :=
  let cs := cs.dropWhile isBlank
  let digits := cs.takeWhile Char.isDigit
  let n := digits.foldl (fun n c => 10 * n + (c.toNat - '0'.toNat)) 0
  if digits.isEmpty ∨ n ≥ Nat.pow 2 32 then none
  else some (n, o.skip ((cs.dropWhile Char.isDigit).dropWhile isBlank))

/-- The bounds of a repetition, behind their opening brace. -/
private def readBounds (o : Options) (cs : List Char) :
    Option ((Nat × Option Nat) × List Char) := do
  let (least, rest) ← number? o (o.skip cs)
  match rest with
  | '}' :: rest => return ((least, some least), rest)
  | ',' :: rest =>
    match o.skip rest with
    | '}' :: rest => return ((least, none), rest)
    | rest => do
      let (most, rest) ← number? o rest
      match rest with
      | '}' :: rest => if most < least then none else return ((least, some most), rest)
      | _ => none
  | _ => none

/-- How often a repetition mark asks for the part in front of it. -/
private def readRepetition (o : Options) : List Char → Option ((Nat × Option Nat) × List Char)
  | '*' :: cs => some ((0, none), cs)
  | '+' :: cs => some ((1, none), cs)
  | '?' :: cs => some ((0, some 1), cs)
  | '{' :: cs => readBounds o cs
  | _ => none

private def isRepetition (cs : List Char) : Bool :=
  cs.head?.any fun c => c = '*' || c = '+' || c = '?' || c = '{'

/-- A mark for short matches behind a repetition. -/
private def skipLazy (o : Options) (cs : List Char) : List Char :=
  match o.skip cs with
  | '?' :: cs => cs
  | cs => cs

private def inOrder (parts : List (Option Pattern)) : Pattern :=
  (parts.filterMap id).foldl (fun p part => if p = .empty then part else .sequence part p) .empty

private def withEarlier (earlier : Option Pattern) (parts : List (Option Pattern)) : Pattern :=
  match earlier with
  | some p => .choice p (inOrder parts)
  | none => inOrder parts

/-- The rest of a group, with its earlier choices, and the parts of this one from the last to the
first, of which options are no pattern; `fuel` bounds the number of steps. -/
private def readGroup : (fuel : Nat) → (isOpen : Bool) → Options → List String →
    (earlier : Option Pattern) → (parts : List (Option Pattern)) → List Char →
    Option (Pattern × List String × List Char)
  | 0, _, _, _, _, _, _ => none
  | fuel + 1, isOpen, o, names, earlier, parts, cs =>
    match o.skip cs with
    | [] => if isOpen then none else some (withEarlier earlier parts, names, [])
    | ')' :: rest => if isOpen then some (withEarlier earlier parts, names, rest) else none
    | '|' :: rest => readGroup fuel isOpen o names (some (withEarlier earlier parts)) [] rest
    | '(' :: rest => do
      match ← readOpening o names (o.skip rest) with
      | (.inr (), inner, rest) => readGroup fuel isOpen inner names earlier (none :: parts) rest
      | (.inl names, inner, rest) => do
        let (p, names, rest) ← readGroup fuel true inner names none [] rest
        readGroup fuel isOpen o names earlier (some p :: parts) rest
    | rest =>
      if isRepetition rest then
        match parts with
        | some p :: parts => do
          let ((least, most), rest) ← readRepetition o rest
          let p := .repeated least most p
          readGroup fuel isOpen o names earlier (some p :: parts) (skipLazy o rest)
        | _ => none
      else do
        let (p, rest) ← readAtom o rest
        readGroup fuel isOpen o names earlier (some p :: parts) rest

/-- The number of parts of a pattern in which all repetitions are written out. -/
def size : Pattern → Nat
  | .empty | .one _ | .look _ => 1
  | .sequence p q | .choice p q => p.size + q.size
  | .repeated least most p => max 1 (most.getD least) * p.size + 1

/-- Larger patterns are refused. -/
def largest : Nat := 250000

/-- The pattern that a text describes. -/
def ofText? (text : String) : Option Pattern := do
  let cs := text.toList
  let (p, _, _) ← readGroup (cs.length + 1) false .initial [] none [] cs
  if p.size > largest then none else some p

end CredentialRotation.Pattern
