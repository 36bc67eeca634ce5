import Mathlib.Data.List.Infix

/-!
Patterns that prefer some ways through a text to others, and searches from left to right: at the
first place where something is found the preferred way is taken, and the search goes on behind it.
-/
namespace CredentialRotation

/-- Which runs a repetition tries first. -/
inductive Preference
  | longest
  | shortest
  deriving DecidableEq, Repr

/-- A part of a pattern: one character of a set, or any number of them. -/
inductive Piece
  | one (set : Char → Bool)
  | many (set : Char → Bool) (first : Preference)

namespace Piece

/-- The runs at the front of a text, each with what follows it, from the empty one on. -/
def runs (set : Char → Bool) : List Char → List (List Char × List Char)
  | [] => [([], [])]
  | c :: cs =>
    ([], c :: cs) :: if set c then (runs set cs).map fun (run, rest) => (c :: run, rest) else []

/-- What a piece can take, each with what follows it, in the order in which it is tried. -/
def takes (cs : List Char) : Piece → List (List Char × List Char)
  | .one set =>
    match cs with
    | [] => []
    | c :: cs => if set c then [([c], cs)] else []
  | .many set .longest => (runs set cs).reverse
  | .many set .shortest => runs set cs

/-- What pieces in a row can take. The choice of an earlier piece is kept as long as the later ones
have another to try. -/
def ways : List Piece → List Char → List (List Char × List Char)
  | [], cs => [([], cs)]
  | piece :: pieces, cs =>
    (piece.takes cs).flatMap fun (taken, rest) =>
      (ways pieces rest).map fun (more, left) => (taken ++ more, left)

/-- The first way of the pieces with which the rest of a pattern comes to something. -/
def first? {α : Type} (pieces : List Piece) (next : List Char → List Char → Option α)
    (cs : List Char) : Option α :=
  (ways pieces cs).findSome? fun (taken, rest) => next taken rest

section First
variable {α : Type} {set : Char → Bool} {next : List Char → List Char → Option α}

private theorem findSome?_flatMap {β γ : Type} (l : List β) (f : β → List γ) (g : γ → Option α) :
    (l.flatMap f).findSome? g = l.findSome? fun b => (f b).findSome? g := by
  induction l with
  | nil => rfl
  | cons b l ih =>
    rw [List.flatMap_cons, List.findSome?_append, ih, List.findSome?_cons]
    cases (f b).findSome? g <;> rfl

@[simp] theorem first?_nil (cs : List Char) : first? [] next cs = next [] cs := by
  simp [first?, ways]

theorem first?_cons (piece : Piece) (pieces : List Piece) (cs : List Char) :
    first? (piece :: pieces) next cs =
      (piece.takes cs).findSome? fun (taken, rest) =>
        first? pieces (fun more left => next (taken ++ more) left) rest := by
  simp only [first?, ways, findSome?_flatMap, List.findSome?_map]
  rfl

theorem first?_append (pieces more : List Piece) (cs : List Char) :
    first? (pieces ++ more) next cs =
      first? pieces (fun taken rest =>
        first? more (fun after left => next (taken ++ after) left) rest) cs := by
  induction pieces generalizing next cs with
  | nil => simp
  | cons piece pieces ih => simp only [List.cons_append, first?_cons, ih, List.append_assoc]

theorem first?_one_nil (pieces : List Piece) : first? (.one set :: pieces) next [] = none := by
  simp [first?_cons, takes]

theorem first?_one_cons (pieces : List Piece) (c : Char) (cs : List Char) :
    first? (.one set :: pieces) next (c :: cs) =
      if set c then first? pieces (fun more left => next (c :: more) left) cs else none := by
  rw [first?_cons, takes]
  split <;> simp_all

theorem first?_shortest_cons (c : Char) (cs : List Char) :
    first? [.many set .shortest] next (c :: cs) =
      (next [] (c :: cs)).or
        (if set c then first? [.many set .shortest] (fun taken => next (c :: taken)) cs
          else none) := by
  simp only [first?_cons, first?_nil, takes, runs, List.append_nil]
  split
  · rw [List.findSome?_cons, List.findSome?_map]
    cases next [] (c :: cs) <;> rfl
  · rw [List.findSome?_cons]
    cases next [] (c :: cs) <;> rfl

theorem first?_longest_cons (c : Char) (cs : List Char) :
    first? [.many set .longest] next (c :: cs) =
      (if set c then first? [.many set .longest] (fun taken => next (c :: taken)) cs
        else none).or (next [] (c :: cs)) := by
  simp only [first?_cons, first?_nil, takes, runs, List.append_nil, List.reverse_cons,
    List.findSome?_append]
  split
  · rw [← List.map_reverse, List.findSome?_map]
    simp
    rfl
  · simp

private theorem none_of_longer
    (helps : ∀ taken c rest, set c = true → next (taken ++ [c]) rest = none →
      next taken (c :: rest) = none)
    {run taken rest : List Char} (inside : ∀ c ∈ run, set c = true)
    (missed : next (taken ++ run) rest = none) : next taken (run ++ rest) = none := by
  induction run generalizing taken with
  | nil => rwa [List.append_nil] at missed
  | cons c run ih =>
    obtain ⟨here, others⟩ := List.forall_mem_cons.1 inside
    rw [List.append_cons] at missed
    exact helps taken c (run ++ rest) here (ih others missed)

/-- Where a longer run always leads as far as a shorter one, only the longest need be tried. -/
theorem first?_longest
    (helps : ∀ taken c rest, set c = true → next (taken ++ [c]) rest = none →
      next taken (c :: rest) = none) (cs : List Char) :
    first? [.many set .longest] next cs = next (cs.takeWhile set) (cs.dropWhile set) := by
  induction cs generalizing next with
  | nil => simp [first?_cons, takes, runs]
  | cons c cs ih =>
    rw [first?_longest_cons]
    split
    · rename_i inside
      rw [ih fun taken => helps (c :: taken), List.takeWhile_cons_of_pos inside,
        List.dropWhile_cons_of_pos inside]
      cases longest : next (c :: cs.takeWhile set) (cs.dropWhile set) with
      | some a => rfl
      | none =>
        have run : ∀ d ∈ c :: cs.takeWhile set, set d = true :=
          List.forall_mem_cons.2 ⟨inside, fun d => List.all_eq_true.1 List.all_takeWhile d⟩
        have missed : next [] ((c :: cs.takeWhile set) ++ cs.dropWhile set) = none :=
          none_of_longer helps run longest
        rwa [List.cons_append, List.takeWhile_append_dropWhile] at missed
    · rename_i outside
      rw [List.takeWhile_cons_of_neg outside, List.dropWhile_cons_of_neg outside]
      rfl

theorem mem_runs {cs run rest : List Char} :
    (run, rest) ∈ runs set cs ↔ cs = run ++ rest ∧ ∀ c ∈ run, set c = true := by
  induction cs generalizing run with
  | nil =>
    simp only [runs, List.mem_singleton, Prod.mk.injEq]
    constructor
    · rintro ⟨rfl, rfl⟩
      exact ⟨rfl, nofun⟩
    · rintro ⟨joined, -⟩
      exact List.append_eq_nil_iff.1 joined.symm
  | cons c cs ih =>
    cases run with
    | nil =>
      simp only [runs, List.mem_cons, Prod.mk.injEq, true_and, List.nil_append]
      constructor
      · rintro (rfl | later)
        · exact ⟨rfl, nofun⟩
        · split at later <;> simp at later
      · rintro ⟨rfl, -⟩
        exact .inl rfl
    | cons d run =>
      simp only [runs, List.mem_cons, Prod.mk.injEq, reduceCtorEq, false_and, false_or,
        List.cons_append, List.cons.injEq, forall_eq_or_imp]
      split
      · rename_i inside
        simp only [List.mem_map, Prod.exists, Prod.mk.injEq, List.cons.injEq]
        constructor
        · rintro ⟨run, rest, mem, ⟨rfl, rfl⟩, rfl⟩
          obtain ⟨joined, others⟩ := ih.1 mem
          exact ⟨⟨rfl, joined⟩, inside, others⟩
        · rintro ⟨⟨rfl, joined⟩, -, others⟩
          exact ⟨run, rest, ih.2 ⟨joined, others⟩, ⟨rfl, rfl⟩, rfl⟩
      · rename_i outside
        simp only [List.not_mem_nil, false_iff, not_and]
        rintro ⟨rfl, -⟩ inside
        exact absurd inside outside

/-- Where all runs that lead to something lead to the same, the order does not matter. -/
theorem first?_many_eq_some_iff {first : Preference} {cs : List Char} {a : α}
    (sole : ∀ {run rest run' rest' b}, cs = run ++ rest → (∀ c ∈ run, set c = true) →
      next run rest = some a → cs = run' ++ rest' → (∀ c ∈ run', set c = true) →
      next run' rest' = some b → a = b) :
    first? [.many set first] next cs = some a ↔
      ∃ run rest, cs = run ++ rest ∧ (∀ c ∈ run, set c = true) ∧ next run rest = some a := by
  have tried : ∀ way, way ∈ (many set first).takes cs ↔ way ∈ runs set cs := by
    intro way
    cases first with
    | longest => exact List.mem_reverse
    | shortest => rfl
  simp only [first?_cons, first?_nil, List.append_nil]
  constructor
  · intro found
    obtain ⟨⟨run, rest⟩, mem, here⟩ := List.exists_of_findSome?_eq_some found
    obtain ⟨joined, inside⟩ := mem_runs.1 ((tried _).1 mem)
    exact ⟨run, rest, joined, inside, here⟩
  · rintro ⟨run, rest, joined, inside, here⟩
    have mem := (tried _).2 (mem_runs.2 ⟨joined, inside⟩)
    cases found : (takes cs (.many set first)).findSome? fun way => next way.1 way.2 with
    | none =>
      have missed := List.findSome?_eq_none_iff.1 found _ mem
      rw [here] at missed
      cases missed
    | some b =>
      obtain ⟨⟨run', rest'⟩, mem', there⟩ := List.exists_of_findSome?_eq_some found
      obtain ⟨joined', inside'⟩ := mem_runs.1 ((tried _).1 mem')
      rw [sole joined inside here joined' inside' there]

end First
end Piece

/-- A pattern with one part whose text is kept. -/
structure CapturePattern where
  before : List Piece
  captured : List Piece
  behind : List Piece

namespace CapturePattern

/-- All matches at the front of a text in the order in which they are tried: the text of the
captured part, and what follows the whole match. -/
def ways (p : CapturePattern) (cs : List Char) : List (List Char × List Char) :=
  (Piece.ways p.before cs).flatMap fun (_, inner) =>
    (Piece.ways p.captured inner).flatMap fun (body, left) =>
      (Piece.ways p.behind left).map fun (_, rest) => (body, rest)

/-- The match at the front of a text. -/
def match? (p : CapturePattern) (cs : List Char) : Option (List Char × List Char) :=
  (p.ways cs).head?

theorem match?_eq (p : CapturePattern) (cs : List Char) :
    p.match? cs =
      Piece.first? p.before (fun _ => Piece.first? p.captured fun body =>
        Piece.first? p.behind fun _ rest => some (body, rest)) cs := by
  have first {α β : Type} (l : List α) (f : α → β) : l.findSome? (fun a => some (f a)) =
      l.head?.map f := by
    cases l <;> rfl
  simp only [match?, ways, List.head?_flatMap, List.head?_map, Piece.first?, first]

end CapturePattern

/-- `Scan At cs found`: of all places of the text the first is taken at which `At` gives a body and
a rest, and the search goes on in that rest, until there is no such place. -/
inductive Scan (At : List Char → List Char → List Char → Prop) :
    List Char → List (List Char) → Prop
  | stop {cs : List Char} (missed : ∀ x y, cs = x ++ y → ∀ body rest, ¬ At y body rest) :
    Scan At cs []
  | next {before after body rest : List Char} {found : List (List Char)}
    (missed : ∀ x y, before = x ++ y → y ≠ [] → ∀ body rest, ¬ At (y ++ after) body rest)
    (here : At after body rest) (others : Scan At rest found) :
    Scan At (before ++ after) (body :: found)

namespace Scan
variable {At : List Char → List Char → List Char → Prop} {cs : List Char}
  {found found' : List (List Char)}

/-- A place where nothing is found may be put in front. -/
theorem cons {c : Char} (missed : ∀ body rest, ¬ At (c :: cs) body rest) (h : Scan At cs found) :
    Scan At (c :: cs) found := by
  cases h with
  | stop none =>
    refine .stop fun x y joined => ?_
    cases x with
    | nil =>
      obtain rfl : c :: cs = y := joined
      exact missed
    | cons d x => exact none x y (List.cons.inj joined).2
  | @next before after body rest found earlier here others =>
    rw [← List.cons_append]
    refine .next (fun x y joined nonempty => ?_) here others
    cases x with
    | nil =>
      obtain rfl : c :: before = y := joined
      exact missed
    | cons d x => exact earlier x y (List.cons.inj joined).2 nonempty

/-- What is found is determined, if each place has at most one body and one rest. -/
theorem unique
    (sole : ∀ {cs body rest body' rest'}, At cs body rest → At cs body' rest' →
      body = body' ∧ rest = rest')
    (h : Scan At cs found) (h' : Scan At cs found') : found = found' := by
  induction h generalizing found' with
  | stop none =>
    cases h' with
    | stop => rfl
    | next missed here others => exact absurd here (none _ _ rfl _ _)
  | @next before after body rest found missed here others ih =>
    generalize whole : before ++ after = cs at h'
    cases h' with
    | stop none => exact absurd here (none _ _ whole.symm _ _)
    | @next before' after' body' rest' found' missed' here' others' =>
      -- Neither of the two places lies behind the other.
      obtain rfl : after = after' := by
        rcases List.append_eq_append_iff.1 whole with ⟨z, joined, rfl⟩ | ⟨z, joined, rfl⟩
        · cases z with
          | nil => rfl
          | cons c z => exact absurd here (missed' before _ joined (List.cons_ne_nil c z) _ _)
        · cases z with
          | nil => rfl
          | cons c z => exact absurd here' (missed before' _ joined (List.cons_ne_nil c z) _ _)
      obtain ⟨rfl, rfl⟩ := sole here here'
      rw [ih others']

end Scan

namespace CapturePattern
variable {p : CapturePattern} {cs body rest body' rest' : List Char}
  {found found' : List (List Char)}

/-- At the front of a text stands a match with this body, and this follows it. -/
def At (p : CapturePattern) (cs body rest : List Char) : Prop :=
  p.match? cs = some (body, rest)

theorem At.unique (h : p.At cs body rest) (h' : p.At cs body' rest') :
    body = body' ∧ rest = rest' :=
  Prod.mk.inj (Option.some.inj (h.symm.trans h'))

theorem scan_unique (h : Scan p.At cs found) (h' : Scan p.At cs found') : found = found' := by
  refine h.unique ?_ h'
  exact At.unique

end CapturePattern
end CredentialRotation
