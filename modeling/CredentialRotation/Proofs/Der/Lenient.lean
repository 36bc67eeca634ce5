import CredentialRotation.Der.Lenient

/-!
Readers in sequence, and what they leave of the octets ahead. A header and an element are read from
the front, whatever follows them; a reader run on the content of an element sees that content alone.
-/
namespace CredentialRotation.Der

variable {α β : Type} {bs rest : Octets}

theorem Reader.bind_eq_some_iff {x : Reader α} {f : α → Reader β} {b : β} :
    (x >>= f) bs = some (b, rest) ↔
      ∃ a mid, x bs = some (a, mid) ∧ f a mid = some (b, rest) := by
  change (x bs).bind (fun p => f p.1 p.2) = _ ↔ _
  rw [Option.bind_eq_some_iff]
  constructor
  · rintro ⟨⟨a, mid⟩, first, second⟩
    exact ⟨a, mid, first, second⟩
  · rintro ⟨a, mid, first, second⟩
    exact ⟨(a, mid), first, second⟩

theorem Reader.pure_eq_some_iff {a b : α} :
    (pure a : Reader α) bs = some (b, rest) ↔ b = a ∧ rest = bs := by
  change some (a, bs) = _ ↔ _
  simp only [Option.some.injEq, Prod.mk.injEq]
  constructor
  · rintro ⟨rfl, rfl⟩
    exact ⟨rfl, rfl⟩
  · rintro ⟨rfl, rfl⟩
    exact ⟨rfl, rfl⟩

theorem Reader.failure_ne_some {a : α} : (failure : Reader α) bs ≠ some (a, rest) :=
  nofun

/-- A reader that takes octets from the front and does not look at what follows them. -/
def Reader.TakesFront (x : Reader α) : Prop :=
  ∀ bs a rest, x bs = some (a, rest) →
    ∃ front, bs = front ++ rest ∧ ∀ more, x (front ++ more) = some (a, more)

namespace Reader.TakesFront
variable {x y : Reader α} {f : α → Reader β}

theorem returns (a : α) : TakesFront (pure a : Reader α) := by
  intro bs b rest h
  obtain ⟨rfl, rfl⟩ := pure_eq_some_iff.1 h
  exact ⟨[], rfl, fun more => rfl⟩

theorem fails : TakesFront (failure : Reader α) :=
  fun _ _ _ h => absurd h failure_ne_some

theorem bind (first : TakesFront x) (next : ∀ a, TakesFront (f a)) : TakesFront (x >>= f) := by
  intro bs b rest h
  obtain ⟨a, mid, read, read'⟩ := bind_eq_some_iff.1 h
  obtain ⟨front, rfl, anyMore⟩ := first _ _ _ read
  obtain ⟨front', rfl, anyMore'⟩ := next a _ _ _ read'
  refine ⟨front ++ front', (List.append_assoc _ _ _).symm, fun more => ?_⟩
  rw [List.append_assoc]
  exact bind_eq_some_iff.2 ⟨a, _, anyMore _, anyMore' more⟩

theorem map {g : α → β} (first : TakesFront x) : TakesFront (g <$> x) := by
  rw [map_eq_pure_bind]
  exact first.bind fun a => .returns (g a)

theorem ite {p : Prop} [Decidable p] (first : TakesFront x) (second : TakesFront y) :
    TakesFront (if p then x else y) := by
  split
  · exact first
  · exact second

end Reader.TakesFront

namespace Lenient
open Reader (TakesFront)

/-- The tag in a header, with the octet that it starts in. -/
def tagField (b : UInt8) : Reader Nat :=
  if b.toNat % 32 = 31 then tagNumber 5 0 else pure (b.toNat % 32)

/-- The length in a header: none where a marker ends the content. -/
def lengthField : Reader (Option Nat) := do
  let l := (← octet).toNat
  if l < 128 then pure (some l)
  else if l = 128 then pure none
  else if l = 255 then failure
  else some <$> longLength (l - 128)

theorem bind_ite_left {α β : Type} {p : Prop} [Decidable p] (x y : Reader α) (f : α → Reader β) :
    (if p then x else y) >>= f = if p then x >>= f else y >>= f := by
  split <;> rfl

theorem header_eq : header = (do
    let b ← octet
    let tag ← tagField b
    let length ← lengthField
    return { tagClass := classOf b, constructed := b.toNat / 32 % 2 = 1, tag, length }) := by
  unfold header tagField lengthField
  simp only [bind_assoc, bind_ite_left]

theorem takesFront_octet : TakesFront octet := by
  intro bs b rest h
  cases bs with
  | nil => cases h
  | cons c bs =>
    cases h
    exact ⟨[b], rfl, fun more => rfl⟩

theorem take_append (content more : Octets) :
    take content.length (content ++ more) = some (content, more) := by
  rw [take, if_pos (by simp), List.splitAt_eq, List.take_left, List.drop_left]

theorem take_eq_some_iff {n : Nat} {content : Octets} :
    take n bs = some (content, rest) ↔ content.length = n ∧ bs = content ++ rest := by
  constructor
  · intro h
    rw [take] at h
    split at h
    · next enough =>
      rw [List.splitAt_eq, Option.some.injEq, Prod.mk.injEq] at h
      obtain ⟨rfl, rfl⟩ := h
      exact ⟨List.length_take_of_le enough, (List.take_append_drop n bs).symm⟩
    · cases h
  · rintro ⟨rfl, rfl⟩
    exact take_append content rest

theorem takesFront_take (n : Nat) : TakesFront (take n) := by
  intro bs content rest h
  obtain ⟨rfl, rfl⟩ := take_eq_some_iff.1 h
  exact ⟨content, rfl, take_append content⟩

theorem takesFront_tagNumber (fuel acc : Nat) : TakesFront (tagNumber fuel acc) := by
  induction fuel generalizing acc with
  | zero => exact .fails
  | succ fuel ih => exact takesFront_octet.bind fun b => .ite (.returns _) (ih _)

theorem takesFront_lengthField : TakesFront lengthField := by
  have long (count : Nat) : TakesFront (longLength count) :=
    (takesFront_take count).bind fun _ => .ite (.returns _) .fails
  exact takesFront_octet.bind fun l =>
    .ite (.returns _) (.ite (.returns _) (.ite .fails (long _).map))

theorem takesFront_header : TakesFront header := by
  rw [header_eq]
  exact takesFront_octet.bind fun b =>
    (TakesFront.ite (takesFront_tagNumber 5 0) (.returns _)).bind fun tag =>
      takesFront_lengthField.bind fun length => .returns _

theorem takesFront_element : TakesFront element := by
  refine takesFront_header.bind fun h => ?_
  cases h.length with
  | none => exact .fails
  | some n => exact (takesFront_take n).bind fun content => .returns _

/-- An element is a header with a length, and as many octets. -/
theorem element_eq_some_iff {e : Element} :
    element bs = some (e, rest) ↔
      header bs = some (e.header, e.content ++ rest) ∧
        e.header.length = some e.content.length := by
  rw [element, Reader.bind_eq_some_iff]
  constructor
  · rintro ⟨h, mid, read, behind⟩
    cases length : h.length with
    | none =>
      rw [length] at behind
      exact absurd behind Reader.failure_ne_some
    | some n =>
      rw [length] at behind
      obtain ⟨content, left, taken, returned⟩ := Reader.bind_eq_some_iff.1 behind
      obtain ⟨rfl, rfl⟩ := Reader.pure_eq_some_iff.1 returned
      obtain ⟨rfl, rfl⟩ := take_eq_some_iff.1 taken
      exact ⟨read, length⟩
  · rintro ⟨read, length⟩
    refine ⟨e.header, _, read, ?_⟩
    rw [length]
    exact Reader.bind_eq_some_iff.2 ⟨_, _, take_append _ _, rfl⟩

/-- The octets are one element: its header announces just as many octets as follow it. -/
def IsOneElement (bs : Octets) : Prop :=
  ∃ h content, header bs = some (h, content) ∧ h.length = some content.length

theorem isOneElement_iff : IsOneElement bs ↔ ∃ e, element bs = some (e, []) := by
  constructor
  · rintro ⟨h, content, read, length⟩
    exact ⟨⟨h, content⟩, element_eq_some_iff.2 ⟨by rw [List.append_nil]; exact read, length⟩⟩
  · rintro ⟨e, read⟩
    obtain ⟨read, length⟩ := element_eq_some_iff.1 read
    rw [List.append_nil] at read
    exact ⟨e.header, e.content, read, length⟩

/-- What a reader inside an element gives is what it gives on the element's content alone. -/
theorem within_eq_some_iff {tag : Nat} {inner : Reader α} {a : α} :
    within tag inner bs = some (a, rest) ↔
      ∃ e, element bs = some (e, rest) ∧ e.header.tag = tag ∧
        ∃ left, inner e.content = some (a, left) := by
  rw [within, Reader.bind_eq_some_iff]
  constructor
  · rintro ⟨e, mid, read, h⟩
    by_cases same : e.header.tag = tag
    · rw [if_neg (not_not_intro same)] at h
      cases found : inner e.content with
      | none =>
        rw [found] at h
        exact absurd h Reader.failure_ne_some
      | some result =>
        obtain ⟨b, left⟩ := result
        rw [found] at h
        obtain ⟨rfl, rfl⟩ := Reader.pure_eq_some_iff.1 h
        exact ⟨e, read, same, left, found⟩
    · rw [if_pos same, Reader.bind_eq_some_iff] at h
      obtain ⟨_, _, failed, -⟩ := h
      exact absurd failed Reader.failure_ne_some
  · rintro ⟨e, read, same, left, found⟩
    refine ⟨e, rest, read, ?_⟩
    rw [if_neg (not_not_intro same), found]
    rfl

end Lenient

end CredentialRotation.Der
