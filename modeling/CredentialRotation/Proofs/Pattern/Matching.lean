import CredentialRotation.Pattern.Matching
import Mathlib.Data.List.Basic

/-!
What patterns match. A match leads from one place of a text to another, and the places that are
found are those to which a match leads: a repetition may well be followed for no longer than the
text is, since whatever goes on without moving can be left out.
-/
namespace CredentialRotation.Pattern

section Times
variable {α : Type} {R : α → α → Prop} {i j k : α} {m n : Nat}

/-- So many steps of a relation in a row. -/
def Times (R : α → α → Prop) : Nat → α → α → Prop
  | 0, i, j => i = j
  | n + 1, i, k => ∃ j, Times R n i j ∧ R j k

theorem times_add_iff : Times R (m + n) i k ↔ ∃ j, Times R m i j ∧ Times R n j k := by
  induction n generalizing k with
  | zero => simp [Times]
  | succ n ih =>
    change (∃ l, Times R (m + n) i l ∧ R l k) ↔ ∃ j, Times R m i j ∧ ∃ l, Times R n j l ∧ R l k
    simp only [ih]
    constructor
    · rintro ⟨l, ⟨j, first, second⟩, last⟩
      exact ⟨j, first, l, second, last⟩
    · rintro ⟨j, first, l, second, last⟩
      exact ⟨l, ⟨j, first, second⟩, last⟩

/-- Steps that never lead back lead as far in no more steps than there are places to pass. -/
theorem Times.shorten {R : Nat → Nat → Prop} {i j : Nat} (forward : ∀ i j, R i j → i ≤ j)
    (steps : Times R n i j) : i ≤ j ∧ ∃ m ≤ j - i, Times R m i j := by
  induction n generalizing j with
  | zero =>
    obtain rfl : i = j := steps
    exact ⟨Nat.le_refl i, 0, Nat.zero_le _, rfl⟩
  | succ n ih =>
    obtain ⟨k, earlier, last⟩ := steps
    obtain ⟨passed, m, few, short⟩ := ih earlier
    rcases Nat.lt_or_eq_of_le (forward k j last) with moves | rfl
    · exact ⟨by omega, m + 1, by omega, k, short, last⟩
    · exact ⟨passed, m, few, short⟩

end Times

/-- A match leads from one place to another. With a bound a repetition goes on for as many times at
most as the bound lies above the least number. -/
def Matches (subject : Array Char) : Pattern → Nat → Nat → Prop
  | .empty, i, j => i = j
  | .one set, i, j => (∃ c, subject[i]? = some c ∧ set.holds c = true) ∧ j = i + 1
  | .look anchor, i, j => anchor.holds (before subject i) subject[i]? = true ∧ i = j
  | .sequence p q, i, k => ∃ j, p.Matches subject i j ∧ q.Matches subject j k
  | .choice p q, i, j => p.Matches subject i j ∨ q.Matches subject i j
  | .repeated least most p, i, j =>
    ∃ more, (∀ bound ∈ most, more ≤ bound - least) ∧ Times (p.Matches subject) (least + more) i j

section Places
variable {subject : Array Char} {p : Pattern} {i j n : Nat}

theorem Matches.le (h : p.Matches subject i j) : i ≤ j := by
  induction p generalizing i j with
  | empty => exact Nat.le_of_eq h
  | one set => exact h.2 ▸ Nat.le_succ i
  | look anchor => exact Nat.le_of_eq h.2
  | sequence p q ihp ihq =>
    obtain ⟨k, first, second⟩ := h
    exact Nat.le_trans (ihp first) (ihq second)
  | choice p q ihp ihq => exact h.elim ihp ihq
  | repeated least most p ih =>
    obtain ⟨more, -, steps⟩ := h
    exact (steps.shorten fun _ _ => ih).1

theorem Times.le_size {R : Nat → Nat → Prop} (inside : ∀ i j, i ≤ n → R i j → j ≤ n) {m : Nat}
    (steps : Times R m i j) (start : i ≤ n) : j ≤ n := by
  induction m generalizing j with
  | zero => exact steps ▸ start
  | succ m ih =>
    obtain ⟨k, earlier, last⟩ := steps
    exact inside k j (ih earlier) last

theorem Matches.le_size (h : p.Matches subject i j) (start : i ≤ subject.size) :
    j ≤ subject.size := by
  induction p generalizing i j with
  | empty => exact h ▸ start
  | one set =>
    obtain ⟨⟨c, here, -⟩, rfl⟩ := h
    exact (Array.getElem?_eq_some_iff.1 here).1
  | look anchor => exact h.2 ▸ start
  | sequence p q ihp ihq =>
    obtain ⟨k, first, second⟩ := h
    exact ihq second (ihp first start)
  | choice p q ihp ihq => exact h.elim (ihp · start) (ihq · start)
  | repeated least most p ih =>
    obtain ⟨more, -, steps⟩ := h
    exact steps.le_size (fun _ _ start here => ih here start) start

end Places

section Closure
variable {R : Nat → Nat → Prop} {step : List Nat → List Nat} {new seen : List Nat} {j n rounds : Nat}

/-- A place lies no more than so many steps behind one of these. -/
def Near (R : Nat → Nat → Prop) (starts : List Nat) (n j : Nat) : Prop :=
  ∃ m ≤ n, ∃ i ∈ starts, Times R m i j

theorem near_succ_iff {starts : List Nat} :
    Near R starts (n + 1) j ↔ Near R starts n j ∨ ∃ k, Near R starts n k ∧ R k j := by
  constructor
  · rintro ⟨m, few, i, start, steps⟩
    rcases Nat.lt_or_eq_of_le few with less | rfl
    · exact .inl ⟨m, Nat.le_of_lt_succ less, i, start, steps⟩
    · obtain ⟨k, earlier, last⟩ := steps
      exact .inr ⟨k, ⟨n, Nat.le_refl n, i, start, earlier⟩, last⟩
  · rintro (⟨m, few, i, start, steps⟩ | ⟨k, ⟨m, few, i, start, steps⟩, last⟩)
    · exact ⟨m, Nat.le_succ_of_le few, i, start, steps⟩
    · exact ⟨m + 1, Nat.succ_le_succ few, i, start, k, steps, last⟩

/-- What `seen` holds by now, of which only `new` can still lead on. -/
structure Explored (R : Nat → Nat → Prop) (starts : List Nat) (n : Nat) (new seen : List Nat) :
    Prop where
  near : ∀ j, j ∈ seen ↔ Near R starts n j
  new_seen : ∀ j ∈ new, j ∈ seen
  passed : ∀ j ∈ seen, j ∉ new → ∀ k, R j k → k ∈ seen

theorem Explored.start (R : Nat → Nat → Prop) (starts : List Nat) :
    Explored R starts 0 starts starts where
  near j := by simp [Near, Times]
  new_seen _ := id
  passed _ old new := absurd old new

/-- One round finds what lies one step further. -/
theorem Explored.round {starts fresh : List Nat} (explored : Explored R starts n new seen)
    (found : ∀ j, j ∈ fresh ↔ (∃ i ∈ new, R i j) ∧ j ∉ seen) :
    Explored R starts (n + 1) fresh (fresh ++ seen) where
  near j := by
    simp only [near_succ_iff, ← explored.near, List.mem_append, found]
    constructor
    · rintro (⟨⟨i, start, leads⟩, -⟩ | old)
      · exact .inr ⟨i, explored.new_seen i start, leads⟩
      · exact .inl old
    · rintro (old | ⟨i, old, leads⟩)
      · exact .inr old
      · by_cases known : j ∈ seen
        · exact .inr known
        · by_cases start : i ∈ new
          · exact .inl ⟨⟨i, start, leads⟩, known⟩
          · exact .inr (explored.passed i old start j leads)
  new_seen j here := List.mem_append_left _ here
  passed j known old k leads := by
    rcases List.mem_append.1 known with here | before
    · exact absurd here old
    · by_cases start : j ∈ new
      · by_cases further : k ∈ seen
        · exact List.mem_append_right _ further
        · exact List.mem_append_left _ ((found k).2 ⟨⟨j, start, leads⟩, further⟩)
      · exact List.mem_append_right _ (explored.passed j before start k leads)

/-- Where a round finds nothing, no number of rounds does. -/
theorem Explored.near_of_done {starts : List Nat} (explored : Explored R starts n new seen)
    (done : ∀ i ∈ new, ∀ j, R i j → j ∈ seen) (m : Nat) (far : Near R starts (n + m) j) :
    j ∈ seen := by
  induction m generalizing j with
  | zero => exact (explored.near j).2 far
  | succ m ih =>
    rcases near_succ_iff.1 far with nearer | ⟨k, nearer, leads⟩
    · exact ih nearer
    · by_cases start : k ∈ new
      · exact done k start j leads
      · exact explored.passed k (ih nearer) start j leads

theorem mem_closure_iff {starts : List Nat} {good : Nat → Prop}
    (steps : ∀ places, (∀ i ∈ places, good i) → ∀ j, j ∈ step places ↔ ∃ i ∈ places, R i j)
    (explored : Explored R starts n new seen) (fine : ∀ i ∈ new, good i)
    (keeps : ∀ i j, good i → R i j → good j) :
    j ∈ closure step rounds new seen ↔ Near R starts (n + rounds) j := by
  induction rounds generalizing n new seen with
  | zero => exact explored.near j
  | succ rounds ih =>
    let fresh := ((step new).filter fun i => !seen.contains i).eraseDups
    have found : ∀ j, j ∈ fresh ↔ (∃ i ∈ new, R i j) ∧ j ∉ seen := by
      intro j
      simp [fresh, steps new fine]
    have next := explored.round found
    rw [closure]
    change j ∈ (if fresh.isEmpty then seen else closure step rounds fresh (fresh ++ seen)) ↔ _
    split
    · next none =>
      rw [List.isEmpty_iff] at none
      rw [none] at found
      have done : ∀ i ∈ new, ∀ j, R i j → j ∈ seen := by
        intro i start j leads
        by_contra unseen
        cases (found j).2 ⟨⟨i, start, leads⟩, unseen⟩
      refine ⟨fun known => ?_, explored.near_of_done done _⟩
      obtain ⟨m, few, i, start, walk⟩ := (explored.near j).1 known
      exact ⟨m, by omega, i, start, walk⟩
    · have fine' : ∀ i ∈ fresh, good i := by
        intro i here
        obtain ⟨⟨k, start, leads⟩, -⟩ := (found i).1 here
        exact keeps k i (fine k start) leads
      rw [ih next fine', Nat.add_assoc, Nat.add_comm 1]

end Closure

section Ends
variable {subject : Array Char} {p : Pattern} {starts : List Nat} {j : Nat}

theorem mem_repeat_iff {R : Nat → Nat → Prop} {step : List Nat → List Nat} {good : Nat → Prop}
    (steps : ∀ places, (∀ i ∈ places, good i) → ∀ j, j ∈ step places ↔ ∃ i ∈ places, R i j)
    (keeps : ∀ i j, good i → R i j → good j) (fine : ∀ i ∈ starts, good i) (n : Nat) :
    (∀ j ∈ Nat.repeat step n starts, good j) ∧
      ∀ j, j ∈ Nat.repeat step n starts ↔ ∃ i ∈ starts, Times R n i j := by
  induction n with
  | zero => exact ⟨fine, fun j => by simp [Nat.repeat, Times]⟩
  | succ n ih =>
    obtain ⟨fine', reached⟩ := ih
    have here (j : Nat) : j ∈ Nat.repeat step (n + 1) starts ↔
        ∃ k ∈ Nat.repeat step n starts, R k j := steps _ fine' j
    constructor
    · intro j mem
      obtain ⟨k, mem, leads⟩ := (here j).1 mem
      exact keeps k j (fine' k mem) leads
    · intro j
      rw [here]
      simp only [reached, Times]
      constructor
      · rintro ⟨k, ⟨i, start, walk⟩, last⟩
        exact ⟨i, start, k, walk, last⟩
      · rintro ⟨i, start, k, walk, last⟩
        exact ⟨k, ⟨i, start, walk⟩, last⟩

/-- A repetition leads to what lies near where its least number leads, with the rounds that its bound
leaves, or else with more rounds than there are places. -/
theorem near_reached_iff {R : Nat → Nat → Prop} {reached : List Nat} {most : Option Nat}
    {size least rounds : Nat} (forward : ∀ i j, R i j → i ≤ j)
    (keeps : ∀ i j, i ≤ size → R i j → j ≤ size) (inside : ∀ i ∈ starts, i ≤ size)
    (reaches : ∀ k, k ∈ reached ↔ ∃ i ∈ starts, Times R least i k)
    (bounded : ∀ bound ∈ most, rounds = bound - least) (free : most = none → size < rounds) :
    Near R reached rounds j ↔
      ∃ i ∈ starts, ∃ more, (∀ bound ∈ most, more ≤ bound - least) ∧ Times R (least + more) i j := by
  simp only [Near, reaches]
  constructor
  · rintro ⟨more, few, k, ⟨i, start, first⟩, second⟩
    refine ⟨i, start, more, fun bound limits => ?_, times_add_iff.2 ⟨k, first, second⟩⟩
    exact bounded bound limits ▸ few
  · rintro ⟨i, start, more, limited, walk⟩
    obtain ⟨k, first, second⟩ := times_add_iff.1 walk
    cases most with
    | some bound =>
      have few : more ≤ rounds := bounded bound rfl ▸ limited bound rfl
      exact ⟨more, few, k, ⟨i, start, first⟩, second⟩
    | none =>
      -- Steps that do not move are left out, and the others are no more than there are places.
      obtain ⟨-, m, few, short⟩ := second.shorten forward
      have last := walk.le_size keeps (inside i start)
      have many := free rfl
      exact ⟨m, by omega, k, ⟨i, start, first⟩, short⟩

/-- From places of the text, the places found are those to which a match leads. -/
theorem mem_ends_iff (inside : ∀ i ∈ starts, i ≤ subject.size) :
    j ∈ p.ends subject starts ↔ ∃ i ∈ starts, p.Matches subject i j := by
  induction p generalizing starts j with
  | empty => simp [ends, Matches]
  | one set =>
    simp only [ends, List.mem_map, List.mem_filter, Option.any_eq_true]
    constructor
    · rintro ⟨i, ⟨start, here⟩, rfl⟩
      exact ⟨i, start, here, rfl⟩
    · rintro ⟨i, start, here, rfl⟩
      exact ⟨i, ⟨start, here⟩, rfl⟩
  | look anchor =>
    simp only [ends, List.mem_filter]
    constructor
    · rintro ⟨start, holds⟩
      exact ⟨j, start, holds, rfl⟩
    · rintro ⟨_, start, holds, rfl⟩
      exact ⟨start, holds⟩
  | sequence p q ihp ihq =>
    have inside' : ∀ k ∈ p.ends subject starts, k ≤ subject.size := by
      intro k mem
      obtain ⟨i, start, here⟩ := (ihp inside).1 mem
      exact here.le_size (inside i start)
    rw [ends, ihq inside']
    constructor
    · rintro ⟨k, mem, second⟩
      obtain ⟨i, start, first⟩ := (ihp inside).1 mem
      exact ⟨i, start, k, first, second⟩
    · rintro ⟨i, start, k, first, second⟩
      exact ⟨k, (ihp inside).2 ⟨i, start, first⟩, second⟩
  | choice p q ihp ihq =>
    simp only [ends, List.mem_eraseDups, List.mem_append, ihp inside, ihq inside, Matches,
      and_or_left, exists_or]
  | repeated least most p ih =>
    have keeps : ∀ i j, i ≤ subject.size → p.Matches subject i j → j ≤ subject.size :=
      fun _ _ start here => here.le_size start
    have steps : ∀ places, (∀ i ∈ places, i ≤ subject.size) →
        ∀ j, j ∈ p.ends subject places ↔ ∃ i ∈ places, p.Matches subject i j :=
      fun _ inside _ => ih inside
    obtain ⟨inside', reached⟩ := mem_repeat_iff steps keeps inside least
    change j ∈ closure (p.ends subject) _ (Nat.repeat _ least starts) (Nat.repeat _ least starts) ↔ _
    rw [mem_closure_iff steps (.start _ _) inside' keeps, Nat.zero_add]
    refine near_reached_iff (fun _ _ => Matches.le) keeps inside reached ?_ ?_
    · rintro bound rfl
      rfl
    · rintro rfl
      exact Nat.lt_succ_self _

/-- A pattern occurs in a text exactly if a match of it leads from one place to another. -/
theorem occursIn_iff {text : String} :
    p.occursIn text = true ↔
      ∃ i ≤ text.toList.length, ∃ j, p.Matches text.toList.toArray i j := by
  have inside : ∀ i ∈ List.range (text.toList.length + 1), i ≤ text.toList.toArray.size :=
    fun i mem => Nat.le_of_lt_succ (List.mem_range.1 mem)
  have found : p.occursIn text = true ↔
      ∃ j, j ∈ p.ends text.toList.toArray (List.range (text.toList.length + 1)) := by
    rw [← List.isEmpty_eq_false_iff_exists_mem]
    simp [occursIn]
  simp only [found, mem_ends_iff inside, List.mem_range, Nat.lt_succ_iff]
  constructor
  · rintro ⟨j, i, start, here⟩
    exact ⟨i, start, j, here⟩
  · rintro ⟨i, start, j, here⟩
    exact ⟨j, i, start, here⟩

end Ends

section Whole
variable {subject : Array Char} {p : Pattern} {set : CharSet} {text : String} {cs : List Char}
  {i j n : Nat}

/-- A text matches from its first character to its last. -/
def whole (p : Pattern) : Pattern := .sequence (.look .start) (.sequence p (.look .finish))

theorem occursIn_whole_iff :
    (whole p).occursIn text = true ↔ p.Matches text.toList.toArray 0 text.toList.length := by
  rw [occursIn_iff]
  constructor
  · rintro ⟨i, start, _, m, ⟨first, rfl⟩, j, here, last, rfl⟩
    obtain rfl : i = 0 := by
      cases i with
      | zero => rfl
      | succ i =>
        have behind : i < text.toList.length := start
        simp [Anchor.holds, before, List.getElem?_eq_getElem behind] at first
    have finish : text.toList.length ≤ j := by simpa [Anchor.holds] using last
    rwa [Nat.le_antisymm finish (here.le_size (Nat.zero_le _))]
  · intro here
    refine ⟨0, Nat.zero_le _, _, 0, ⟨rfl, rfl⟩, _, here, ?_, rfl⟩
    simp [Anchor.holds]

/-- These characters one after another. -/
def spelled : List Char → Pattern
  | [] => .empty
  | [c] => .one (.single c)
  | c :: cs => .sequence (.one (.single c)) (spelled cs)

theorem holds_single_iff {c d : Char} : (CharSet.single c).holds d = true ↔ d = c := by
  simp only [CharSet.single, CharSet.holds, Bool.and_eq_true, decide_eq_true_eq]
  exact ⟨fun h => Char.le_antisymm h.2 h.1, fun h => h ▸ ⟨Char.le_refl _, Char.le_refl _⟩⟩

theorem matches_single_iff {c : Char} :
    (Pattern.one (.single c)).Matches subject i j ↔ subject[i]? = some c ∧ j = i + 1 := by
  simp [Matches, holds_single_iff]

theorem cons_prefix_drop_iff {c : Char} :
    c :: cs <+: subject.toList.drop i ↔
      subject[i]? = some c ∧ cs <+: subject.toList.drop (i + 1) := by
  rw [← Array.getElem?_toList, ← List.head?_drop, ← List.tail_drop]
  cases subject.toList.drop i <;> simp [List.cons_prefix_cons, eq_comm]

theorem matches_spelled_iff :
    (spelled cs).Matches subject i j ↔ cs <+: subject.toList.drop i ∧ j = i + cs.length := by
  induction cs using spelled.induct generalizing i with
  | case1 => simp [spelled, Matches, eq_comm]
  | case2 c => simp [spelled, matches_single_iff, cons_prefix_drop_iff]
  | case3 c cs nonempty ih =>
    rw [spelled.eq_3 c cs nonempty, cons_prefix_drop_iff, List.length_cons]
    simp only [Matches]
    constructor
    · rintro ⟨_, here, others⟩
      obtain ⟨read, rfl⟩ := matches_single_iff.1 here
      obtain ⟨opens, rfl⟩ := ih.1 others
      exact ⟨⟨read, opens⟩, by omega⟩
    · rintro ⟨⟨read, opens⟩, rfl⟩
      exact ⟨i + 1, matches_single_iff.2 ⟨read, rfl⟩, ih.2 ⟨opens, by omega⟩⟩

theorem matches_spelled_whole_iff :
    (spelled cs).Matches text.toList.toArray 0 text.toList.length ↔ text.toList = cs := by
  rw [matches_spelled_iff]
  simp only [List.drop_zero, Nat.zero_add]
  constructor
  · rintro ⟨opens, ends⟩
    exact (opens.eq_of_length ends.symm).symm
  · rintro rfl
    exact ⟨List.prefix_rfl, rfl⟩

theorem matches_choices_iff {others : List Pattern} :
    (others.foldl .choice p).Matches subject i j ↔
      p.Matches subject i j ∨ ∃ q ∈ others, q.Matches subject i j := by
  induction others generalizing p with
  | nil => simp
  | cons q others ih => simp [ih, Matches, or_assoc]

theorem times_one_iff :
    Times ((Pattern.one set).Matches subject) n i j ↔
      j = i + n ∧ ∀ k, i ≤ k → k < j → ∃ c, subject[k]? = some c ∧ set.holds c = true := by
  induction n generalizing j with
  | zero =>
    simp only [Times, Nat.add_zero]
    constructor
    · rintro rfl
      exact ⟨rfl, fun k least most => absurd most (Nat.not_lt.2 least)⟩
    · exact fun h => h.1.symm
  | succ n ih =>
    change (∃ k, Times _ n i k ∧ (Pattern.one set).Matches subject k j) ↔ _
    simp only [ih]
    constructor
    · rintro ⟨_, ⟨rfl, earlier⟩, here, rfl⟩
      refine ⟨rfl, fun k least most => ?_⟩
      rcases Nat.lt_or_eq_of_le (Nat.le_of_lt_succ most) with less | rfl
      · exact earlier k least less
      · exact here
    · rintro ⟨rfl, all⟩
      exact ⟨i + n, ⟨rfl, fun k least most => all k least (Nat.lt_succ_of_lt most)⟩,
        all _ (Nat.le_add_right i n) (Nat.lt_succ_self _), rfl⟩

theorem matches_run_whole_iff :
    (Pattern.repeated 1 none (.one set)).Matches text.toList.toArray 0 text.toList.length ↔
      text.toList ≠ [] ∧ ∀ c ∈ text.toList, set.holds c = true := by
  have filled : (∀ k, 0 ≤ k → k < text.toList.length →
      ∃ c, text.toList.toArray[k]? = some c ∧ set.holds c = true) ↔
      ∀ c ∈ text.toList, set.holds c = true := by
    constructor
    · intro inside c mem
      obtain ⟨k, most, rfl⟩ := List.getElem_of_mem mem
      obtain ⟨c, here, holds⟩ := inside k (Nat.zero_le k) most
      obtain rfl : text.toList[k] = c := by simpa [most] using here
      exact holds
    · intro holds k _ most
      exact ⟨_, by simp [most], holds _ (List.getElem_mem most)⟩
  change (∃ more, (∀ bound ∈ none, _) ∧ Times _ (1 + more) 0 text.toList.length) ↔ _
  simp only [times_one_iff, filled, ← List.length_pos_iff]
  constructor
  · rintro ⟨more, -, length, holds⟩
    exact ⟨by omega, holds⟩
  · rintro ⟨nonempty, holds⟩
    exact ⟨text.toList.length - 1, nofun, by omega, holds⟩

end Whole
end CredentialRotation.Pattern
