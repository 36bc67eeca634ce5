import CredentialRotation.Toml.Reader

/-!
Quoted text: on one line or on several, with escapes or without. A writer chooses the plainest of
the four kinds that can hold a text.
-/
namespace CredentialRotation.Toml.Quoted

def hexValue? (c : Char) : Option Nat :=
  if '0' ≤ c ∧ c ≤ '9' then some (c.toNat - '0'.toNat)
  else if 'a' ≤ c ∧ c ≤ 'f' then some (c.toNat - 'a'.toNat + 10)
  else if 'A' ≤ c ∧ c ≤ 'F' then some (c.toNat - 'A'.toNat + 10)
  else none

/-- The character that a number in hexadecimal digits stands for. -/
def codePoint? (digits : Nat) (cs : List Char) : Option (Char × List Char) :=
  match (cs.take digits).mapM hexValue? with
  | none => none
  | some values =>
    let n := values.foldl (fun n d => 16 * n + d) 0
    if values.length = digits ∧ n.isValidChar then some (Char.ofNat n, cs.drop digits) else none

/-- The character that stands behind a backslash. -/
def escape? : Reader Char
  | 'b' :: cs => some ('\x08', cs)
  | 't' :: cs => some ('\t', cs)
  | 'n' :: cs => some ('\n', cs)
  | 'f' :: cs => some ('\x0c', cs)
  | 'r' :: cs => some ('\r', cs)
  | 'e' :: cs => some ('\x1b', cs)
  | '"' :: cs => some ('"', cs)
  | '\\' :: cs => some ('\\', cs)
  | 'x' :: cs => codePoint? 2 cs
  | 'u' :: cs => codePoint? 4 cs
  | 'U' :: cs => codePoint? 8 cs
  | _ => none

theorem codePoint?_length {digits : Nat} {cs rest : List Char} {c : Char}
    (h : codePoint? digits cs = some (c, rest)) : rest.length ≤ cs.length := by
  unfold codePoint? at h
  split at h
  · simp at h
  · dsimp only at h
    split at h
    · simp only [Option.some.injEq, Prod.mk.injEq] at h
      simp [← h.2]
    · simp at h

theorem escape?_length {cs rest : List Char} {c : Char} (h : escape? cs = some (c, rest)) :
    rest.length < cs.length := by
  unfold escape? at h
  split at h
  case h_12 => simp at h
  case h_9 | h_10 | h_11 => simpa using Nat.lt_succ_of_le (codePoint?_length h)
  all_goals
    simp only [Option.some.injEq, Prod.mk.injEq] at h
    simp [← h.2]

/-- A backslash at the end of a line takes the line end and all space behind it away. -/
def joinedLine? (cs : List Char) : Option (List Char) :=
  (afterNewline? (skipBlanks cs)).map skipSpace

theorem afterNewline?_length {cs rest : List Char} (h : afterNewline? cs = some rest) :
    rest.length < cs.length := by
  unfold afterNewline? at h
  split at h
  · simp only [Option.some.injEq] at h
    simp [← h]
  · simp only [Option.some.injEq] at h
    simp only [← h, List.length_cons]
    omega
  · exact nomatch h

theorem joinedLine?_length {cs rest : List Char} (h : joinedLine? cs = some rest) :
    rest.length < cs.length := by
  obtain ⟨line, hline, rfl⟩ := Option.map_eq_some_iff.1 h
  have blanks : (skipBlanks cs).length ≤ cs.length := (List.dropWhile_sublist _).length_le
  have line := afterNewline?_length hline
  have space := skipSpace_length ‹_›
  omega

/-- Reads on behind a character of a text. -/
def cons (c : Char) (read : Option (List Char × List Char)) :
    Option (List Char × List Char) :=
  read.map fun (text, rest) => (c :: text, rest)

/-- Text up to an apostrophe on the same line. -/
def literal : Reader (List Char)
  | [] => none
  | '\'' :: cs => some ([], cs)
  | c :: cs => if isPlain c then cons c (literal cs) else none

/-- Text up to a quote on the same line. -/
def basic : Reader (List Char)
  | [] => none
  | '"' :: cs => some ([], cs)
  | '\\' :: cs =>
    match _h : escape? cs with
    | some (c, rest) => cons c (basic rest)
    | none => none
  | c :: cs => if isPlain c then cons c (basic cs) else none
termination_by cs => cs.length
decreasing_by
  · exact Nat.lt_succ_of_lt (escape?_length (by assumption))
  · simp

/-- Up to two quotes that stand in front of the closing ones belong to the text. -/
def closing (quote : Char) : List Char → List Char × List Char
  | c :: d :: cs =>
    if c = quote then (if d = quote then ([c, d], cs) else ([c], d :: cs)) else ([], c :: d :: cs)
  | [c] => if c = quote then ([c], []) else ([], [c])
  | [] => ([], [])

/-- Text up to three apostrophes, over any number of lines. -/
def literalLines : Reader (List Char)
  | [] => none
  | '\'' :: '\'' :: '\'' :: cs => some (closing '\'' cs)
  | '\n' :: cs => cons '\n' (literalLines cs)
  | '\r' :: '\n' :: cs => cons '\r' (cons '\n' (literalLines cs))
  | c :: cs => if isPlain c then cons c (literalLines cs) else none

/-- Text up to three quotes, over any number of lines. -/
def basicLines : Reader (List Char)
  | [] => none
  | '"' :: '"' :: '"' :: cs => some (closing '"' cs)
  | '\n' :: cs => cons '\n' (basicLines cs)
  | '\r' :: '\n' :: cs => cons '\r' (cons '\n' (basicLines cs))
  | '\\' :: cs =>
    match _h : joinedLine? cs with
    | some rest => basicLines rest
    | none =>
      match _h : escape? cs with
      | some (c, rest) => cons c (basicLines rest)
      | none => none
  | c :: cs => if isPlain c then cons c (basicLines cs) else none
termination_by cs => cs.length
decreasing_by
  · simp
  · simp only [List.length_cons]
    omega
  · exact Nat.lt_succ_of_lt (joinedLine?_length (by assumption))
  · exact Nat.lt_succ_of_lt (escape?_length (by assumption))
  · simp

/-- A line end right behind the opening quotes does not belong to the text. -/
def skipFirstNewline (cs : List Char) : List Char :=
  (afterNewline? cs).getD cs

/-- Quoted text that stands on one line. -/
def line : Reader (List Char)
  | '"' :: cs => basic cs
  | '\'' :: cs => literal cs
  | _ => none

/-- Quoted text of any kind. -/
def read : Reader (List Char)
  | '"' :: '"' :: '"' :: cs => basicLines (skipFirstNewline cs)
  | '\'' :: '\'' :: '\'' :: cs => literalLines (skipFirstNewline cs)
  | cs => line cs

def hexDigit (n : Nat) : Char :=
  if n < 10 then Char.ofNat (n + '0'.toNat) else Char.ofNat (n - 10 + 'A'.toNat)

/-- A character between quotes. -/
def escaped (c : Char) : List Char :=
  match c with
  | '\x08' => ['\\', 'b']
  | '\t' => ['\\', 't']
  | '\n' => ['\\', 'n']
  | '\x0c' => ['\\', 'f']
  | '\r' => ['\\', 'r']
  | '"' => ['\\', '"']
  | '\\' => ['\\', '\\']
  | c =>
    if isPlain c then [c]
    else ['\\', 'u', '0', '0', hexDigit (c.toNat / 16), hexDigit (c.toNat % 16)]

/-- Text over several lines between triple quotes: line ends and quotes stand for themselves, but
for each quote that would be the third in a row. -/
def escapedLines : (quotes : Nat) → List Char → List Char
  | _, [] => []
  | quotes, c :: cs =>
    if c = '"' ∧ quotes < 2 then '"' :: escapedLines (quotes + 1) cs
    else if c = '\n' then '\n' :: escapedLines 0 cs
    else escaped c ++ escapedLines 0 cs

/-- Whether a character occurs three times in a row. -/
def hasTriple (quote : Char) : List Char → Bool
  | a :: b :: c :: cs =>
    (a = quote && b = quote && c = quote) || hasTriple quote (b :: c :: cs)
  | _ => false

/-- A text in the first kind of quotes that can hold it. Quotes for several lines are followed by a
line end where the text has more than one line. -/
def write (s : List Char) : List Char :=
  let oneLine := !s.contains '\n'
  let plain := s.all fun c => isPlain c || c = '\n'
  let opened (quotes : String) := quotes.toList ++ if oneLine then [] else ['\n']
  let basicBody := s.flatMap escaped
  let linesBody := escapedLines 0 s
  if plain && oneLine && !s.contains '"' && !s.contains '\\' then '"' :: basicBody ++ ['"']
  else if plain && oneLine && !s.contains '\'' then '\'' :: s ++ ['\'']
  else if plain && !s.contains '\\' && !hasTriple '"' s then
    opened "\"\"\"" ++ linesBody ++ "\"\"\"".toList
  else if plain && !hasTriple '\'' s then opened "\'\'\'" ++ s ++ "\'\'\'".toList
  else if oneLine then '"' :: basicBody ++ ['"']
  else opened "\"\"\"" ++ linesBody ++ "\"\"\"".toList

end CredentialRotation.Toml.Quoted
