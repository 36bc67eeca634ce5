/-!
Readers of what stands at the front of a text, and the readers that all parts of a TOML document
share: line ends, comments, and what separates one thing from the next.
-/
namespace CredentialRotation.Toml

/-- Reads something at the front of a text, and says what follows it. -/
abbrev Reader (α : Type) := List Char → Option (α × List Char)

def isTabOrSpace (c : Char) : Bool :=
  c = ' ' || c = '\t'

/-- A character that stands for itself in comments and in quoted text. -/
def isPlain (c : Char) : Bool :=
  c = '\t' || (' ' ≤ c && c ≠ '\x7f')

/-- What follows a line end. -/
def afterNewline? : List Char → Option (List Char)
  | '\n' :: cs => some cs
  | '\r' :: '\n' :: cs => some cs
  | _ => none

/-- What follows a given character. -/
def after? (c : Char) : List Char → Option (List Char)
  | [] => none
  | d :: cs => if d = c then some cs else none

def skipBlanks (cs : List Char) : List Char :=
  cs.dropWhile isTabOrSpace

/-- What follows a comment, if there is one. -/
def skipComment : List Char → List Char
  | '#' :: cs => cs.dropWhile isPlain
  | cs => cs

private theorem dropWhile_length (p : Char → Bool) (cs : List Char) :
    (cs.dropWhile p).length ≤ cs.length :=
  (List.dropWhile_sublist p).length_le

/-- What follows all blanks, line ends and comments. -/
def skipGaps : List Char → List Char
  | ' ' :: cs => skipGaps cs
  | '\t' :: cs => skipGaps cs
  | '\n' :: cs => skipGaps cs
  | '\r' :: '\n' :: cs => skipGaps cs
  | '#' :: cs => skipGaps (cs.dropWhile isPlain)
  | cs => cs
termination_by cs => cs.length
decreasing_by
  all_goals simp only [List.length_cons]
  all_goals first | omega | exact Nat.lt_succ_of_le (dropWhile_length _ _)

/-- What follows all blanks and line ends. -/
def skipSpace : List Char → List Char
  | ' ' :: cs => skipSpace cs
  | '\t' :: cs => skipSpace cs
  | '\n' :: cs => skipSpace cs
  | '\r' :: '\n' :: cs => skipSpace cs
  | cs => cs

theorem skipSpace_length (cs : List Char) : (skipSpace cs).length ≤ cs.length := by
  fun_induction skipSpace cs <;> simp_all <;> omega

/-- The line after this one, if nothing but blanks and a comment is left on it. -/
def nextLine? (cs : List Char) : Option (List Char) :=
  match skipComment (skipBlanks cs) with
  | [] => some []
  | cs => afterNewline? cs

end CredentialRotation.Toml
