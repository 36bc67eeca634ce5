import CredentialRotation.Toml.Bare
import CredentialRotation.Toml.Quoted

/-!
The text of a document: keys, values, and statements on lines of their own. Reading gives the tree
of tables that the statements build.
-/
namespace CredentialRotation.Toml

def isKeyChar (c : Char) : Bool :=
  c.isAlphanum || c = '_' || c = '-'

/-- A key without dots. -/
def readKey : Reader String := fun cs =>
  match Quoted.line cs with
  | some (text, rest) => some (String.ofList text, rest)
  | none =>
    let name := cs.takeWhile isKeyChar
    if name.isEmpty then none else some (String.ofList name, cs.dropWhile isKeyChar)

/-- Keys with dots between them; `fuel` bounds their number. -/
def keysWithin : (fuel : Nat) → Reader (List String)
  | 0, _ => none
  | fuel + 1, cs => do
    let (key, rest) ← readKey (skipBlanks cs)
    match skipBlanks rest with
    | '.' :: rest => (keysWithin fuel rest).map fun (keys, rest) => (key :: keys, rest)
    | rest => return ([key], rest)

/-- A dotted key with the blanks around it. -/
def readKeys : Reader (List String) := fun cs =>
  keysWithin cs.length cs

/-- Items up to a closing character, with commas between them and perhaps behind the last one;
`fuel` bounds their number. -/
def itemsWithin {α : Type} (item : Reader α) (close : Char) :
    (fuel : Nat) → Reader (List α)
  | 0, _ => none
  | fuel + 1, cs =>
    match after? close (skipGaps cs) with
    | some rest => some ([], rest)
    | none => do
      let (first, rest) ← item (skipGaps cs)
      match skipGaps rest with
      | ',' :: rest =>
        (itemsWithin item close fuel rest).map fun (items, rest) => (first :: items, rest)
      | rest => return ([first], ← after? close rest)

def readItems {α : Type} (item : Reader α) (close : Char) : Reader (List α) := fun cs =>
  itemsWithin item close cs.length cs

/-- A key, an equals sign and a value. -/
def readEntry (value : Reader Value) : Reader (List String × Value) := fun cs => do
  let (key, rest) ← readKeys cs
  let (value, rest) ← value (skipBlanks (← after? '=' rest))
  return ((key, value), rest)

def readScalar : Reader Value := fun cs =>
  match cs with
  | '"' :: _ | '\'' :: _ =>
    (Quoted.read cs).map fun (text, rest) => (.scalar (.text (String.ofList text)), rest)
  | cs => (Bare.read cs).map fun (scalar, rest) => (.scalar scalar, rest)

def ofEntries? (entries : List (List String × Value)) : Option Entries :=
  entries.foldlM (fun es (key, value) => es.assign [] key value .inline) []

/-- A value whose arrays and tables are nested no deeper than a bound. -/
def readValue : (depth : Nat) → Reader Value
  | 0, '[' :: _ | 0, '{' :: _ => none
  | depth + 1, '[' :: cs =>
    (readItems (readValue depth) ']' cs).map fun (items, rest) => (.array false items, rest)
  | depth + 1, '{' :: cs => do
    let (entries, rest) ← readItems (readEntry (readValue depth)) '}' cs
    return (.table .inline (← ofEntries? entries), rest)
  | _, cs => readScalar cs

/-- How deep arrays and tables between braces may be nested. -/
def deepest : Nat := 80

def readStatement : Reader Statement
  | '[' :: '[' :: cs => do
    let (header, rest) ← readKeys cs
    return (.element header, ← after? ']' (← after? ']' rest))
  | '[' :: cs => do
    let (header, rest) ← readKeys cs
    return (.table header, ← after? ']' rest)
  | cs => (readEntry (readValue deepest) cs).map fun ((key, value), rest) =>
    (.entry key value, rest)

/-- Statements on lines of their own; `fuel` bounds their number. -/
def statementsWithin : (fuel : Nat) → List Char → Option (List Statement)
  | 0, _ => none
  | fuel + 1, cs =>
    match skipGaps cs with
    | [] => some []
    | cs => do
      let (statement, rest) ← readStatement cs
      return statement :: (← statementsWithin fuel (← nextLine? rest))

def readStatements (cs : List Char) : Option (List Statement) :=
  statementsWithin (cs.length + 1) cs

def skipByteOrderMark : List Char → List Char
  | '\ufeff' :: cs => cs
  | cs => cs

/-- The root table of a document. -/
def Entries.ofDocument? (cs : List Char) : Option Entries := do
  Entries.ofStatements? [] [] (← readStatements (skipByteOrderMark cs))

end CredentialRotation.Toml
