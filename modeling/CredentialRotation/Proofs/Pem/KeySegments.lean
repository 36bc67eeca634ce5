import CredentialRotation.Proofs.Pem.KeyScan

/-!
Segments of a text: all that has the form of a private key block, with whatever runs. One segment
makes one block at least, and a block that starts before a segment ends no later than it. So two
segments that do not overlap make two blocks.
-/
namespace CredentialRotation.Pem

namespace KeyWords
variable {x after rest : List Char}

theorem count_hyphen (w : KeyWords) : w.text.count '-' = 5 := by
  have first : w.first.count '-' = 0 :=
    List.count_eq_zero.2 (not_mem_of_folds w.first_folds (by decide))
  have gap : w.gap.count '-' = 0 :=
    List.count_eq_zero.2 fun mem => absurd (w.gap_blank '-' mem) (by decide)
  have second : w.second.count '-' = (w.second.map folded).count '-' := by
    rw [List.count_eq_countP, List.count_eq_countP, List.countP_map]
    apply List.countP_congr
    intro c _
    simp only [Function.comp_apply, beq_iff_eq, folded_eq_hyphen_iff]
  rw [w.second_folds] at second
  rw [text, List.count_append, List.count_append, first, gap, second]
  rfl

theorem exists_concat_hyphen (w : KeyWords) : ∃ before, w.text = before ++ ['-'] := by
  have spelled : w.second.map folded = "key----".toList ++ "-".toList := w.second_folds
  obtain ⟨before, last, parted, -, lastFolds⟩ := List.map_eq_append_iff.1 spelled
  obtain ⟨c, others, rfl, folds, empty⟩ := List.map_eq_cons_iff.1 lastFolds
  obtain rfl := List.map_eq_nil_iff.1 empty
  obtain rfl := folded_eq_hyphen_iff.1 folds
  exact ⟨w.first ++ (w.gap ++ before), by simp only [text, parted, List.append_assoc]⟩

/-- Words that start no earlier than others end no earlier. -/
theorem suffix_of_eq_append (w w' : KeyWords)
    (joined : w.text ++ after = x ++ (w'.text ++ rest)) : rest <:+ after :=
  suffix_of_count_hyphen w.exists_concat_hyphen (by rw [w.count_hyphen, w'.count_hyphen]) joined

end KeyWords

namespace RunMarker
variable {opening after x rest : List Char} {Complete : List Char → Prop}

theorem text_append (m : RunMarker opening) (after : List Char) :
    m.text ++ after = (m.front ++ m.gap ++ m.run) ++ (m.words.text ++ after) := by
  simp only [text, List.append_assoc]

/-- No words start in the opening of a marker or in the blanks behind it. -/
private theorem folded_ne_of_mem (m : RunMarker opening) (plain : FoldsPlainly opening)
    (solid : 'p' ∉ opening) {c : Char} (mem : c ∈ m.front ++ m.gap) : folded c ≠ 'p' := by
  rcases List.mem_append.1 mem with mem | mem
  · intro folds
    have spelled := (map_folded_eq_iff plain _).2 m.front_spells
    exact not_mem_of_folds spelled (folds ▸ solid) mem
  · exact folded_ne_of_isBlank (m.gap_blank c mem) (by decide)

/-- With the shortest run, a marker ends where words with something complete behind them end for the
first time. -/
theorem suffix_of_words (m : RunMarker opening) (plain : FoldsPlainly opening)
    (solid : 'p' ∉ opening) (shortest : m.Shortest Complete after) {w : KeyWords}
    (complete : Complete rest) (joined : m.text ++ after = x ++ (w.text ++ rest)) :
    rest <:+ after := by
  rw [m.text_append] at joined
  rcases List.append_eq_append_iff.1 joined with ⟨z, -, behind⟩ | ⟨z, head, starts⟩
  · exact m.words.suffix_of_eq_append w behind
  by_cases nonempty : z = []
  · subst nonempty
    exact m.words.suffix_of_eq_append w (x := []) starts.symm
  rcases List.append_eq_append_iff.1 head with ⟨u, -, inRun⟩ | ⟨u, before, rfl⟩
  · exact absurd complete (shortest u z inRun nonempty w rest starts.symm)
  · cases u with
    | nil => exact absurd complete (shortest [] m.run rfl nonempty w rest starts.symm)
    | cons c u =>
      obtain ⟨p, first, spelled, folds⟩ := w.exists_first
      rw [KeyWords.text, spelled] at starts
      obtain rfl := (List.cons.inj starts).1
      exact absurd folds (m.folded_ne_of_mem plain solid (by simp [before]))

end RunMarker

/-- What has the form of a block. -/
structure Segment where
  begins : RunMarker "-----begin".toList
  body : List Char
  ends : RunMarker "-----end".toList
  isBody : IsKeyBody body

def Segment.text (s : Segment) : List Char :=
  s.begins.text ++ (s.body ++ s.ends.text)

section Counting
variable {cs body rest before after : List Char}

/-- A block that starts in front of a segment ends no later. -/
theorem KeyBlockAt.suffix_of_segment (s : Segment)
    (here : KeyBlockAt (before ++ (s.text ++ after)) body rest) : after <:+ rest := by
  obtain ⟨b, e, joined, isBody, shortest, nearest⟩ := here
  -- Neither BEGIN marker nor body of the block reaches beyond those of the segment.
  have closes : ClosesKey (s.body ++ (s.ends.text ++ after)) :=
    ⟨s.body, s.ends, after, s.isBody, rfl⟩
  have begins : b.text ++ (body ++ (e.text ++ rest)) =
      (before ++ (s.begins.front ++ s.begins.gap ++ s.begins.run)) ++
        (s.begins.words.text ++ (s.body ++ (s.ends.text ++ after))) := by
    rw [← joined, Segment.text, List.append_assoc, s.begins.text_append, List.append_assoc s.body,
      List.append_assoc before]
  obtain ⟨z, inner⟩ := b.suffix_of_words (by decide) (by decide) shortest closes begins
  obtain ⟨u, ends⟩ : ∃ u, e.text ++ rest = u ++ (s.ends.text ++ after) := by
    rw [← List.append_assoc] at inner
    rcases List.append_eq_append_iff.1 inner with ⟨u, inBody, ends⟩ | ⟨u, -, ends⟩
    · cases u with
      | nil => exact ⟨[], ends.symm⟩
      | cons c u =>
        obtain ⟨text, starts⟩ := s.ends.text_eq_cons rfl
        rw [starts] at ends
        obtain rfl := (List.cons.inj ends).1
        have hyphen := isBody.2 '-' (by simp [inBody])
        cases hyphen
    · exact ⟨u, ends⟩
  rw [s.ends.text_append, ← List.append_assoc u] at ends
  exact e.suffix_of_words (by decide) (by decide) nearest trivial ends

theorem KeyBlockAt.exists_segment (here : KeyBlockAt cs body rest) :
    ∃ s : Segment, cs = s.text ++ rest := by
  obtain ⟨b, e, rfl, isBody, -⟩ := here
  exact ⟨⟨b, body, e, isBody⟩, by simp only [Segment.text, List.append_assoc]⟩

theorem keyBodies_of_keyBlockAt (here : KeyBlockAt cs body rest) :
    keyBodies cs = body :: keyBodies rest := by
  cases cs with
  | nil => cases keyBlock?_eq_some_iff.2 here
  | cons c cs => rw [keyBodies_cons, keyBlock?_eq_some_iff.2 here]

/-- A segment makes a block, which may start in front of it but ends no later. -/
theorem exists_keyBodies_of_segment (s : Segment) (before after : List Char) :
    ∃ body rest, keyBodies (before ++ (s.text ++ after)) = body :: keyBodies rest ∧
      after <:+ rest := by
  have found {before body rest : List Char}
      (here : KeyBlockAt (before ++ (s.text ++ after)) body rest) :
      ∃ body rest, keyBodies (before ++ (s.text ++ after)) = body :: keyBodies rest ∧
        after <:+ rest :=
    ⟨body, rest, keyBodies_of_keyBlockAt here, here.suffix_of_segment s⟩
  induction before with
  | nil =>
    have closes : ClosesKey ((s.body ++ s.ends.text) ++ after) :=
      ⟨s.body, s.ends, after, s.isBody, List.append_assoc _ _ _⟩
    have completes : (keyBlock? (s.text ++ after)).isSome :=
      keyBlock?_isSome_iff.2 ⟨s.begins, _, List.append_assoc _ _ _, closes⟩
    obtain ⟨⟨body, rest⟩, here⟩ := Option.isSome_iff_exists.1 completes
    exact found (keyBlock?_eq_some_iff.1 here)
  | cons c before ih =>
    cases here : keyBlock? (c :: (before ++ (s.text ++ after))) with
    | none =>
      rw [List.cons_append, keyBodies_cons, here]
      exact ih
    | some block => exact found (keyBlock?_eq_some_iff.1 here)

/-- Where there is a body there is a segment, and all other bodies are found behind it. -/
theorem exists_segment_of_keyBodies {more : List (List Char)} (h : keyBodies cs = body :: more) :
    ∃ before rest, ∃ s : Segment, cs = before ++ (s.text ++ rest) ∧ keyBodies rest = more := by
  have scanned := scan_keyBodies cs
  rw [h] at scanned
  cases scanned with
  | next missed here others =>
    obtain ⟨s, rfl⟩ := here.exists_segment
    exact ⟨_, _, s, rfl, (scan_keyBlockAt_iff.1 others).symm⟩

/-- Somewhere in the text stands a segment. -/
def ContainsSegment (cs : List Char) : Prop :=
  ∃ before after, ∃ s : Segment, cs = before ++ (s.text ++ after)

/-- Two segments stand in the text, the second behind the end of the first. -/
def ContainsTwoSegments (cs : List Char) : Prop :=
  ∃ before between after, ∃ s t : Segment,
    cs = before ++ (s.text ++ (between ++ (t.text ++ after)))

theorem keyBodies_eq_nil_iff : keyBodies cs = [] ↔ ¬ ContainsSegment cs := by
  constructor
  · rintro none ⟨before, after, s, rfl⟩
    obtain ⟨body, rest, found, -⟩ := exists_keyBodies_of_segment s before after
    rw [none] at found
    cases found
  · intro none
    cases found : keyBodies cs with
    | nil => rfl
    | cons body more =>
      obtain ⟨before, rest, s, joined, -⟩ := exists_segment_of_keyBodies found
      exact absurd ⟨before, rest, s, joined⟩ none

theorem two_le_length_keyBodies_iff : 2 ≤ (keyBodies cs).length ↔ ContainsTwoSegments cs := by
  constructor
  · intro several
    match found : keyBodies cs with
    | [] => simp [found] at several
    | [body] => simp [found] at several
    | body :: body' :: more =>
      obtain ⟨before, rest, s, rfl, later⟩ := exists_segment_of_keyBodies found
      obtain ⟨between, after, t, rfl, -⟩ := exists_segment_of_keyBodies later
      exact ⟨before, between, after, s, t, rfl⟩
  · rintro ⟨before, between, after, s, t, rfl⟩
    obtain ⟨body, rest, first, skipped, rfl⟩ :=
      exists_keyBodies_of_segment s before (between ++ (t.text ++ after))
    obtain ⟨body', rest', second, -⟩ := exists_keyBodies_of_segment t (skipped ++ between) after
    rw [List.append_assoc] at second
    simp [first, second]

end Counting

section Passing
variable {word y before after : List Char}

/-- A word is not found where what is known of the text differs from it. -/
theorem afterWord?_append_eq_none
    (other : (y.map folded).take word.length ≠ word.take y.length) (after : List Char) :
    afterWord? word (y ++ after) = none := by
  cases found : afterWord? word (y ++ after) with
  | none => rfl
  | some rest =>
    obtain ⟨front, rfl, joined⟩ := afterWord?_eq_some_iff.1 found
    refine absurd ?_ other
    rcases List.append_eq_append_iff.1 joined with ⟨z, rfl, -⟩ | ⟨z, rfl, -⟩ <;> simp

/-- Text at whose places no block starts is passed over. -/
theorem keyBodies_append_of_missed
    (missed : ∀ y, y <:+ before → y ≠ [] → keyBlock? (y ++ after) = none) :
    keyBodies (before ++ after) = keyBodies after := by
  induction before with
  | nil => rfl
  | cons c before ih =>
    have here := missed _ (List.suffix_refl _) (List.cons_ne_nil c before)
    rw [List.cons_append] at here ⊢
    rw [keyBodies_cons, here]
    exact ih fun y inside => missed y (inside.trans (List.suffix_cons c before))

end Passing
end CredentialRotation.Pem
