import CredentialRotation.Text.Blank

/-!
The words of marker lines, found in any letter case. Folding is that of Unicode for single
characters, so the Kelvin sign reads as a k and the long s as an s.
-/
namespace CredentialRotation.Pem

/-- The lower-case form under simple case folding, for what folds to ASCII. -/
def folded (c : Char) : Char :=
  if c = '\u212a' then 'k' else if c = '\u017f' then 's' else c.toLower

/-- What follows the lower-case word at the front of a text. -/
def afterWord? : List Char → List Char → Option (List Char)
  | [], cs => some cs
  | _ :: _, [] => none
  | w :: word, c :: cs => if folded c = w then afterWord? word cs else none

/-- What follows at least one blank. -/
def afterBlanks? (cs : List Char) : Option (List Char) :=
  match cs with
  | c :: _ => if isBlank c then some (cs.dropWhile isBlank) else none
  | [] => none

theorem afterWord?_length {word cs rest : List Char} (h : afterWord? word cs = some rest) :
    rest.length + word.length = cs.length := by
  induction word generalizing cs with
  | nil => simp_all [afterWord?]
  | cons w word ih =>
    cases cs with
    | nil => simp [afterWord?] at h
    | cons c cs =>
      simp only [afterWord?] at h
      split at h
      · simp [← ih h]
        omega
      · simp at h

end CredentialRotation.Pem
