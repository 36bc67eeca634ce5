import CredentialRotation.Number.Binary

/-!
Values of TOML documents, and the places in a tree of tables that a document's statements fill.
Each table knows how it came to be, since that decides which statements may still add to it.
-/
namespace CredentialRotation.Toml

/-- A value without parts. Numbers that no reader can hold are kept as out of range, so that only
who looks at them stumbles over them. -/
inductive Scalar
  | text (content : String)
  | integer (n : Int)
  | float (x : Binary)
  | boolean (b : Bool)
  | moment
  | outOfRange
  deriving DecidableEq, Repr

/-- How a table came to be: by a header of its own, on the way to another header, on the way to a
dotted key, or between braces. -/
inductive Origin
  | header
  | implied
  | dotted
  | inline
  deriving DecidableEq, Repr

/-- A value. An open array grows by one table with each of its headers. -/
inductive Value
  | scalar (content : Scalar)
  | array (isOpen : Bool) (items : List Value)
  | table (origin : Origin) (entries : List (String × Value))

/-- Keys with their values, in the order of their first appearance. -/
abbrev Entries := List (String × Value)

mutual

/-- Whether some scalar within a value has a property. -/
def Value.any (p : Scalar → Bool) : Value → Bool
  | .scalar s => p s
  | .array _ items => anyItem p items
  | .table _ entries => anyEntry p entries

def anyItem (p : Scalar → Bool) : List Value → Bool
  | [] => false
  | v :: vs => v.any p || anyItem p vs

def anyEntry (p : Scalar → Bool) : List (String × Value) → Bool
  | [] => false
  | (_, v) :: es => v.any p || anyEntry p es

end

namespace Entries

/-- Gives a key a new value in place, or adds it behind the others. -/
def put (key : String) (value : Value) : Entries → Entries
  | [] => [(key, value)]
  | (k, v) :: es => if k = key then (k, value) :: es else (k, v) :: put key value es

/-- Changes the table at the end of a path. Each step says how a table comes to be that is missing
there. Tables between braces are closed, and a dotted key does not lead into a table with a header;
an open array stands for its last table. -/
def change (f : Origin → Entries → Option Entries) :
    List (Origin × String) → Origin → Entries → Option Entries
  | [], origin, es => f origin es
  | (fresh, key) :: path, _, es => do
    match es.lookup key with
    | none => return put key (.table fresh (← change f path fresh [])) es
    | some (.table origin inner) =>
      if origin = .inline ∨ (fresh = .dotted ∧ origin = .header) then none
      return put key (.table origin (← change f path origin inner)) es
    | some (.array true items) =>
      match items.getLast? with
      | some (.table origin last) =>
        let last := Value.table origin (← change f path origin last)
        return put key (.array true (items.dropLast ++ [last])) es
      | _ => none
    | some _ => none

def steps (fresh : Origin) (keys : List String) : List (Origin × String) :=
  keys.map fun key => (fresh, key)

/-- Gives a new key its value below a table. A dotted key adds only to tables of dotted keys, and a
plain key only to others. -/
def assign (above key : List String) (value : Value) (origin : Origin) (es : Entries) :
    Option Entries :=
  let path := steps .implied above ++ steps .dotted key.dropLast
  change (fun origin es => do
    let name ← key.getLast?
    if (origin = .dotted) ≠ (key.length > 1) ∨ (es.lookup name).isSome then none
    return put name value es) path origin es

/-- Opens a table by its header. -/
def openTable (header : List String) (es : Entries) : Option Entries :=
  change (fun _ es => do
    let name ← header.getLast?
    match es.lookup name with
    | none => return put name (.table .header []) es
    | some (.table .implied inner) => return put name (.table .header inner) es
    | some _ => none) (steps .implied header.dropLast) .header es

/-- Opens the next table of an array by its header. -/
def openElement (header : List String) (es : Entries) : Option Entries :=
  change (fun _ es => do
    let name ← header.getLast?
    match es.lookup name with
    | none => return put name (.array true [.table .header []]) es
    | some (.array true items) => return put name (.array true (items ++ [.table .header []])) es
    | some _ => none) (steps .implied header.dropLast) .header es

end Entries

/-- A line of a document that says something. -/
inductive Statement
  | entry (key : List String) (value : Value)
  | table (header : List String)
  | element (header : List String)

/-- The tree that statements build, one after another, each entry below the header before it. -/
def Entries.ofStatements? : (above : List String) → Entries → List Statement → Option Entries
  | _, es, [] => some es
  | above, es, .entry key value :: rest => do
    ofStatements? above (← es.assign above key value .header) rest
  | _, es, .table header :: rest => do ofStatements? header (← es.openTable header) rest
  | _, es, .element header :: rest => do ofStatements? header (← es.openElement header) rest

end CredentialRotation.Toml
