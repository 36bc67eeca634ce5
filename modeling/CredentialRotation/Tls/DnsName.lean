import CredentialRotation.Octets

/-!
Host names as they stand in certificates and are asked for. Names are compared without regard to the
case of letters, and a wildcard stands for one whole label.
-/
namespace CredentialRotation.DnsName

private def dot : UInt8 := 46
private def hyphen : UInt8 := 45
private def star : UInt8 := 42

private def isDigit (b : UInt8) : Bool := 48 ≤ b.toNat && b.toNat ≤ 57

private def isLetter (b : UInt8) : Bool :=
  (65 ≤ b.toNat && b.toNat ≤ 90) || (97 ≤ b.toNat && b.toNat ≤ 122)

/-- The labels between the dots. -/
def labels (name : Octets) : List Octets :=
  name.splitOn dot

/-- At most 63 letters, digits, hyphens and underscores, with no hyphen at either end. -/
def isLabel (label : Octets) : Bool :=
  !label.isEmpty && label.length ≤ 63 &&
    label.all (fun b => isDigit b || isLetter b || b = hyphen || b = 95) &&
    label.head? ≠ some hyphen && label.getLast? ≠ some hyphen

/-- At least one label, all of them labels, and the last one not only digits. -/
private def areLabels (labels : List Octets) : Bool :=
  !labels.isEmpty && labels.all isLabel && !(labels.getLast?.any fun l => l.all isDigit)

private def isShort (name : Octets) : Bool :=
  name.length ≤ 253

/-- A name that may be asked for. A dot at its end makes it absolute and changes nothing. -/
def isReference (name : Octets) : Bool :=
  let all := labels name
  isShort name && areLabels (if all.getLast? = some [] then all.dropLast else all)

/-- A name that a certificate may present. A first label that is a star needs two more behind it. -/
def isPresented (name : Octets) : Bool :=
  isShort name &&
    match labels name with
    | first :: rest =>
      if first = [star] then areLabels rest && 2 ≤ rest.length else areLabels (first :: rest)
    | [] => false

/-- A name that constrains others: empty for all names, or with a dot in front of its labels for
those below it only. -/
def isConstraint (name : Octets) : Bool :=
  name.isEmpty || (isShort name &&
    areLabels (if name.head? = some dot then (labels name).drop 1 else labels name))

private def lower (b : UInt8) : UInt8 :=
  if 65 ≤ b.toNat ∧ b.toNat ≤ 90 then b + 32 else b

/-- The same but for the case of letters. -/
def isSame (a b : Octets) : Bool :=
  a.map lower = b.map lower

/-- What follows the first label of a name. -/
private def belowFirst (name : Octets) : Octets :=
  (name.drop 1).dropWhile (· ≠ dot)

/-- A presented name and one of the same kind without a star. -/
private def covers (presented name : Octets) : Bool :=
  match presented with
  | first :: rest => if first = star then isSame rest (belowFirst name) else isSame presented name
  | [] => name.isEmpty

/-- A presented name matches a name that is asked for. -/
def matchesReference (presented reference : Octets) : Bool :=
  covers presented (if reference.getLast? = some dot then reference.dropLast else reference)

/-- A presented name lies within a constraint. A star stands for any label when names are excluded,
and for none of a constraint's own labels when they are permitted. -/
def isWithin (permitted : Bool) (presented constraint : Octets) : Bool :=
  if presented.length > constraint.length then
    let start := presented.length - constraint.length
    constraint.isEmpty ||
      (isSame (presented.drop start) constraint &&
        (constraint.head? = some dot || presented[start - 1]? = some dot))
  else if permitted then isSame presented constraint
  else covers presented constraint

end CredentialRotation.DnsName
