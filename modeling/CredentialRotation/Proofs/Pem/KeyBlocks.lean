import CredentialRotation.Pem.KeyBlocks
import CredentialRotation.Proofs.Pem.Marker
import Mathlib.Data.List.Infix

/-!
The grammar of private key blocks, and what the search finds of a text that holds one. The blanks of
a marker may be line feeds, so a stray opening in front of a block may be taken for that of the
block; its body is the same.
-/
namespace CredentialRotation.Pem

section Folding
variable {word cs : List Char} {c : Char}

/-- A character that no character of the word is the folded form of stands in no spelling of it. -/
theorem not_mem_of_folds (h : cs.map folded = word) (hc : folded c ∉ word) : c ∉ cs := by
  intro mem
  exact hc (h ▸ List.mem_map_of_mem mem)

/-- Blanks have one case. -/
theorem folded_of_isBlank (h : isBlank c = true) : folded c = c := by
  unfold folded
  split
  · rename_i kelvin
    subst kelvin
    cases h
  split
  · rename_i _ long
    subst long
    cases h
  unfold Char.toLower
  split
  · rename_i upper
    have lo : 65 ≤ c.toNat := upper.1
    have hi : c.toNat ≤ 90 := upper.2
    simp only [isBlank, Bool.or_eq_true, Bool.and_eq_true, decide_eq_true_eq, beq_iff_eq] at h
    omega
  · rfl

theorem isBlank_of_folded {w : Char} (h : folded c = w) (hw : isBlank w = false) :
    isBlank c = false := by
  cases blank : isBlank c with
  | false => rfl
  | true =>
    rw [folded_of_isBlank blank] at h
    rw [← h, blank] at hw
    cases hw

theorem folded_ne_of_isBlank {w : Char} (h : isBlank c = true) (hw : isBlank w = false) :
    folded c ≠ w := by
  intro folds
  rw [isBlank_of_folded folds hw] at h
  cases h

/-- Nothing but a hyphen folds to one. -/
theorem folded_eq_hyphen_iff : folded c = '-' ↔ c = '-' := by
  have plain : FoldsPlainly "-".toList := by decide
  constructor
  · intro folds
    have spelled : Spells "-".toList [c] :=
      (map_folded_eq_iff plain [c]).1 (congrArg (fun d => [d]) folds)
    exact List.singleton_inj.1 (spelled.eq_of_no_letter (by decide))
  · rintro rfl
    decide

end Folding

section Words

/-- PRIVATE, at least one blank, KEY and five hyphens, in any letter case. -/
structure KeyWords where
  first : List Char
  gap : List Char
  second : List Char
  first_folds : first.map folded = "private".toList
  gap_nonempty : gap ≠ []
  gap_blank : ∀ c ∈ gap, isBlank c = true
  second_folds : second.map folded = "key-----".toList

def KeyWords.text (w : KeyWords) : List Char :=
  w.first ++ (w.gap ++ w.second)

/-- Somewhere in the text stand the two words. -/
def ContainsKeyWords (cs : List Char) : Prop :=
  ∃ before after, ∃ w : KeyWords, cs = before ++ (w.text ++ after)

theorem KeyWords.exists_first (w : KeyWords) : ∃ c cs, w.first = c :: cs ∧ folded c = 'p' := by
  obtain ⟨c, cs, starts, folds, -⟩ := List.map_eq_cons_iff.1 w.first_folds
  exact ⟨c, cs, starts, folds⟩

theorem KeyWords.exists_second (w : KeyWords) : ∃ c cs, w.second = c :: cs ∧ folded c = 'k' := by
  obtain ⟨c, cs, starts, folds, -⟩ := List.map_eq_cons_iff.1 w.second_folds
  exact ⟨c, cs, starts, folds⟩

variable {cs rest : List Char}

/-- All blanks in front are passed over, and at least one. -/
theorem afterBlanks?_eq_some_iff :
    afterBlanks? cs = some rest ↔ ∃ gap, gap ≠ [] ∧ (∀ c ∈ gap, isBlank c = true) ∧
      cs = gap ++ rest ∧ ∀ c ∈ rest.head?, isBlank c = false := by
  constructor
  · intro h
    cases cs with
    | nil => cases h
    | cons c cs =>
      rw [afterBlanks?] at h
      split at h
      · rename_i blank
        obtain rfl := Option.some.inj h
        refine ⟨(c :: cs).takeWhile isBlank, by simp [blank], ?_,
          List.takeWhile_append_dropWhile.symm, ?_⟩
        · exact fun d => List.all_eq_true.1 List.all_takeWhile d
        · intro d head
          have stops := List.head?_dropWhile_not isBlank (c :: cs)
          rw [head] at stops
          simpa using stops
      · cases h
  · rintro ⟨gap, nonempty, blank, rfl, stops⟩
    obtain ⟨c, gap, rfl⟩ := List.exists_cons_of_ne_nil nonempty
    have stop : rest.dropWhile isBlank = rest := by
      cases rest with
      | nil => rfl
      | cons d rest => rw [List.dropWhile_cons_of_neg (by simp [stops d rfl])]
    rw [List.cons_append, afterBlanks?, if_pos (blank c List.mem_cons_self), ← List.cons_append,
      List.dropWhile_append_of_pos blank, stop]

/-- Behind the blanks in front of the two words stands none. -/
theorem KeyWords.head?_dropWhile (w : KeyWords) (label after : List Char) :
    ∀ c ∈ (label.dropWhile isBlank ++ (w.text ++ after)).head?, isBlank c = false := by
  intro c head
  have stops := List.head?_dropWhile_not isBlank label
  cases inner : label.dropWhile isBlank with
  | nil =>
    obtain ⟨p, first, starts, folds⟩ := w.exists_first
    rw [inner, List.nil_append, KeyWords.text, starts] at head
    obtain rfl := Option.some.inj head
    exact isBlank_of_folded folds (by decide)
  | cons d rest =>
    rw [inner] at head stops
    obtain rfl := Option.some.inj head
    simpa using stops

/-- The two words are found at the front exactly where the text starts with them. -/
theorem afterPrivateKey?_eq_some_iff :
    afterPrivateKey? cs = some rest ↔ ∃ w : KeyWords, cs = w.text ++ rest := by
  simp only [afterPrivateKey?, Option.bind_eq_bind, Option.bind_eq_some_iff,
    afterWord?_eq_some_iff, afterBlanks?_eq_some_iff]
  constructor
  · rintro ⟨_, ⟨first, first_folds, rfl⟩, _, ⟨gap, gap_nonempty, gap_blank, rfl, -⟩, second,
      second_folds, rfl⟩
    exact ⟨⟨first, gap, second, first_folds, gap_nonempty, gap_blank, second_folds⟩,
      by simp only [KeyWords.text, List.append_assoc]⟩
  · rintro ⟨w, rfl⟩
    refine ⟨_, ⟨w.first, w.first_folds, ?_⟩, _, ⟨w.gap, w.gap_nonempty, w.gap_blank, rfl, ?_⟩,
      w.second, w.second_folds, rfl⟩
    · simp only [KeyWords.text, List.append_assoc]
    · obtain ⟨c, second, starts, folds⟩ := w.exists_second
      rw [starts]
      rintro _ ⟨⟩
      exact isBlank_of_folded folds (by decide)

theorem containsKeyWords_iff :
    ContainsKeyWords cs ↔ ∃ y ∈ cs.tails, (afterPrivateKey? y).isSome = true := by
  simp only [List.mem_tails, Option.isSome_iff_exists, afterPrivateKey?_eq_some_iff]
  constructor
  · rintro ⟨before, after, w, rfl⟩
    exact ⟨_, ⟨before, rfl⟩, after, w, rfl⟩
  · rintro ⟨_, ⟨before, rfl⟩, after, w, rfl⟩
    exact ⟨before, after, w, rfl⟩

instance (cs : List Char) : Decidable (ContainsKeyWords cs) :=
  decidable_of_iff' _ containsKeyWords_iff

theorem afterPrivateKey?_cons_of_ne {c : Char} (h : folded c ≠ 'p') (cs : List Char) :
    afterPrivateKey? (c :: cs) = none := by
  cases found : afterPrivateKey? (c :: cs) with
  | none => rfl
  | some rest =>
    obtain ⟨w, hw⟩ := afterPrivateKey?_eq_some_iff.1 found
    obtain ⟨p, first, starts, folds⟩ := w.exists_first
    rw [KeyWords.text, starts] at hw
    obtain rfl : c = p := (List.cons.inj hw).1
    exact absurd folds h

/-- Behind a line feed inside the two words stands no hyphen. -/
theorem KeyWords.text_ne (w : KeyWords) (before after : List Char) :
    w.text ≠ before ++ '\n' :: '-' :: after := by
  intro joined
  have first : '\n' ∉ w.first := not_mem_of_folds w.first_folds (by decide)
  have second : '\n' ∉ w.second := not_mem_of_folds w.second_folds (by decide)
  obtain ⟨k, others, starts, folds⟩ := w.exists_second
  have solid : k ≠ '-' := by
    rintro rfl
    cases folds
  rw [KeyWords.text, List.append_cons] at joined
  -- The line feed can only stand in the gap, and then the hyphen would be a blank or the k.
  rcases List.append_eq_append_iff.1 joined with ⟨z, hz, rest⟩ | ⟨z, hz, -⟩
  · rcases List.append_eq_append_iff.1 rest with ⟨y, rfl, hy⟩ | ⟨y, hy, hyphen⟩
    · rcases List.eq_nil_or_concat y with rfl | ⟨y, c, rfl⟩
      · rw [List.nil_append, starts] at hy
        exact solid (List.cons.inj hy).1
      · rw [List.concat_eq_append, ← List.append_assoc, ← List.append_assoc] at hz
        obtain rfl := List.singleton_inj.1 (List.append_inj' hz rfl).2
        exact second (by simp [hy])
    · cases y with
      | nil =>
        rw [List.nil_append, starts] at hyphen
        exact solid (List.cons.inj hyphen).1.symm
      | cons c y =>
        obtain rfl := (List.cons.inj hyphen).1
        have blank := w.gap_blank '-' (by simp [hy])
        cases blank
  · exact first (by simp [hz])

end Words

section Lines
variable {α : Type} {reader : List Char → Option α} {before cs : List Char} {a : α}

theorem firstOnLine?_of_some (h : reader cs = some a) : firstOnLine? reader cs = some a := by
  cases cs with
  | nil => exact h
  | cons c cs => rw [firstOnLine?, h]

/-- Places on the line at which the reader fails are passed over. -/
theorem firstOnLine?_append (line : '\n' ∉ before)
    (missed : ∀ x y, before = x ++ y → y ≠ [] → reader (y ++ cs) = none) :
    firstOnLine? reader (before ++ cs) = firstOnLine? reader cs := by
  induction before with
  | nil => rfl
  | cons c before ih =>
    obtain ⟨other, others⟩ := not_or.1 (mt List.mem_cons.2 line)
    have here := missed [] _ rfl (List.cons_ne_nil c before)
    rw [List.cons_append] at here ⊢
    rw [firstOnLine?, here]
    dsimp only
    rw [if_neg (Ne.symm other)]
    exact ih others fun x y joined => missed (c :: x) y (by rw [joined, List.cons_append])

/-- Nothing is found behind the end of the line. -/
theorem firstOnLine?_eq_none (feed : '\n' ∈ before)
    (missed : ∀ x y, before = x ++ y → y ≠ [] → reader (y ++ cs) = none) :
    firstOnLine? reader (before ++ cs) = none := by
  induction before with
  | nil => cases feed
  | cons c before ih =>
    have here := missed [] _ rfl (List.cons_ne_nil c before)
    rw [List.cons_append] at here ⊢
    rw [firstOnLine?, here]
    dsimp only
    split
    · rfl
    · rename_i other
      exact ih ((List.mem_cons.1 feed).resolve_left (Ne.symm other)) fun x y joined =>
        missed (c :: x) y (by rw [joined, List.cons_append])

theorem exists_of_firstOnLine? (h : firstOnLine? reader cs = some a) :
    ∃ x y, cs = x ++ y ∧ reader y = some a := by
  induction cs with
  | nil => exact ⟨[], [], rfl, h⟩
  | cons c cs ih =>
    rw [firstOnLine?] at h
    split at h
    · rename_i found
      exact ⟨[], c :: cs, rfl, found.trans h⟩
    · split at h
      · cases h
      · obtain ⟨x, y, rfl, found⟩ := ih h
        exact ⟨c :: x, y, rfl, found⟩

end Lines

section Across
variable {before x u cs : List Char} {c : Char}

/-- Where a list is cut in front of a member of its rest, the member stays in the rest. -/
theorem exists_of_append_cons_eq {front rest : List Char} (joined : u ++ c :: cs = front ++ rest)
    (other : c ∉ front) : ∃ v, u = front ++ v ∧ rest = v ++ c :: cs := by
  rcases List.append_eq_append_iff.1 joined with ⟨v, rfl, hv⟩ | ⟨v, rfl, rfl⟩
  · cases v with
    | nil => exact ⟨[], by simp, by simpa using hv.symm⟩
    | cons d v =>
      obtain rfl := (List.cons.inj hv).1
      exact absurd (by simp) other
  · exact ⟨v, rfl, rfl⟩

/-- Text up to the end of a line that does not hold the words does not start them either, if a
hyphen follows. -/
theorem afterPrivateKey?_across (free : ¬ ContainsKeyWords before)
    (joined : before = x ++ (u ++ ['\n'])) :
    afterPrivateKey? ((u ++ ['\n']) ++ '-' :: cs) = none := by
  cases found : afterPrivateKey? ((u ++ ['\n']) ++ '-' :: cs) with
  | none => rfl
  | some rest =>
    obtain ⟨w, hw⟩ := afterPrivateKey?_eq_some_iff.1 found
    have inside (z : List Char) (hz : u ++ ['\n'] = w.text ++ z) : False :=
      free ⟨x, z, w, by rw [joined, hz]⟩
    rcases List.append_eq_append_iff.1 hw with ⟨z, hz, hyphen⟩ | ⟨z, hz, -⟩
    · cases z with
      | nil => exact (inside [] (by rw [hz, List.append_nil, List.append_nil])).elim
      | cons d z =>
        obtain rfl := (List.cons.inj hyphen).1
        exact absurd (by rw [hz, List.append_assoc]; rfl) (w.text_ne u z)
    · exact (inside z hz).elim

theorem firstOnLine?_across {α : Type} {next : List Char → Option α}
    (free : ¬ ContainsKeyWords before) (joined : before = x ++ (u ++ ['\n'])) :
    firstOnLine? (fun cs => (afterPrivateKey? cs).bind next) ((u ++ ['\n']) ++ '-' :: cs) =
      none := by
  apply firstOnLine?_eq_none (by simp)
  intro y z split nonempty
  rcases List.eq_nil_or_concat z with rfl | ⟨z, d, rfl⟩
  · exact absurd rfl nonempty
  · rw [List.concat_eq_append] at split ⊢
    rw [← List.append_assoc] at split
    obtain ⟨hu, hd⟩ := List.append_inj' split rfl
    obtain rfl := List.singleton_inj.1 hd
    have elsewhere : before = (x ++ y) ++ (z ++ ['\n']) := by
      rw [joined, hu]
      simp only [List.append_assoc]
    rw [afterPrivateKey?_across free elsewhere]
    rfl

end Across

/-- The marker of a private key with the given lower-case opening. What stands between the opening
and PRIVATE starts with a blank, stays on the line and does not hold PRIVATE. -/
structure KeyMarker (opening : List Char) where
  front : List Char
  label : List Char
  words : KeyWords
  front_spells : Spells opening front
  label_spaced : ∃ b rest, label = b :: rest ∧ isBlank b = true
  label_line : '\n' ∉ label
  label_free : ∀ word, word <:+: label → word.map folded ≠ "private".toList

def KeyMarker.text {opening : List Char} (m : KeyMarker opening) : List Char :=
  m.front ++ (m.label ++ m.words.text)

namespace KeyMarker
variable {opening : List Char} {x y : List Char}

/-- A marker with nothing but one space where it needs one. -/
def bare (front : List Char) (front_spells : Spells opening front) : KeyMarker opening where
  front := front
  label := [' ']
  words :=
    { first := "PRIVATE".toList
      gap := [' ']
      second := "KEY-----".toList
      first_folds := by decide
      gap_nonempty := List.cons_ne_nil _ _
      gap_blank := List.forall_mem_singleton.2 rfl
      second_folds := by decide }
  front_spells := front_spells
  label_spaced := ⟨' ', [], rfl, rfl⟩
  label_line := by decide
  label_free word inside folds := by
    have short := inside.length_le
    rw [← List.length_map folded, folds] at short
    exact absurd short (by decide)

theorem afterWord?_text (plain : FoldsPlainly opening) (m : KeyMarker opening)
    (rest : List Char) :
    afterWord? opening (m.text ++ rest) = some (m.label ++ (m.words.text ++ rest)) :=
  (afterWord?_eq_some_iff_spells plain).2
    ⟨m.front, m.front_spells, by simp only [text, List.append_assoc]⟩

theorem afterBlanks?_label (m : KeyMarker opening) (rest : List Char) :
    ∃ inner, inner <:+ m.label ∧ afterBlanks? (m.label ++ (m.words.text ++ rest)) =
      some (inner ++ (m.words.text ++ rest)) := by
  obtain ⟨b, label, starts, blank⟩ := m.label_spaced
  have gap : (b :: label).takeWhile isBlank ≠ [] := by simp [blank]
  refine ⟨(b :: label).dropWhile isBlank, starts ▸ List.dropWhile_suffix isBlank, ?_⟩
  refine afterBlanks?_eq_some_iff.2 ⟨_, gap, fun d => List.all_eq_true.1 List.all_takeWhile d, ?_,
    m.words.head?_dropWhile (b :: label) rest⟩
  rw [← List.append_assoc (List.takeWhile _ _), List.takeWhile_append_dropWhile, starts]

/-- The words are not found inside the label: no other letter of PRIVATE is a P. -/
theorem afterPrivateKey?_label (m : KeyMarker opening) (joined : m.label = x ++ y)
    (nonempty : y ≠ []) (rest : List Char) :
    afterPrivateKey? (y ++ (m.words.text ++ rest)) = none := by
  cases found : afterPrivateKey? (y ++ (m.words.text ++ rest)) with
  | none => rfl
  | some rest' =>
    obtain ⟨w, hw⟩ := afterPrivateKey?_eq_some_iff.1 found
    rw [KeyWords.text, KeyWords.text, List.append_assoc, List.append_assoc w.first] at hw
    have inside (z : List Char) (hy : y = w.first ++ z) : False :=
      m.label_free w.first ⟨x, z, by rw [joined, hy, List.append_assoc]⟩ w.first_folds
    rcases List.append_eq_append_iff.1 hw with ⟨z, hz, across⟩ | ⟨z, hz, -⟩
    · cases z with
      | nil => exact (inside [] (by simpa using hz.symm)).elim
      | cons c z =>
        obtain ⟨p, first, starts, folds⟩ := m.words.exists_first
        rw [starts] at across
        obtain rfl : p = c := (List.cons.inj across).1
        obtain ⟨d, y, rfl⟩ := List.exists_cons_of_ne_nil nonempty
        have spelled := w.first_folds
        rw [hz, List.cons_append, List.map_cons, List.map_append, List.map_cons, folds] at spelled
        have others : y.map folded ++ 'p' :: z.map folded = "private".toList.tail :=
          congrArg List.tail spelled
        have late : 'p' ∈ "private".toList.tail :=
          others ▸ List.mem_append_right _ List.mem_cons_self
        exact absurd late (by decide)
    · exact (inside z hz).elim

/-- From anywhere in the label, the reader gets to the words. -/
theorem firstOnLine?_label {α : Type} (m : KeyMarker opening) (inner : y <:+ m.label)
    (next : List Char → Option α) {rest : List Char} {a : α} (h : next rest = some a) :
    firstOnLine? (fun cs => (afterPrivateKey? cs).bind next) (y ++ (m.words.text ++ rest)) =
      some a := by
  obtain ⟨x, joined⟩ := inner
  rw [firstOnLine?_append]
  · apply firstOnLine?_of_some
    rw [afterPrivateKey?_eq_some_iff.2 ⟨m.words, rfl⟩, Option.bind_some, h]
  · exact fun feed => m.label_line (joined ▸ List.mem_append_right x feed)
  · rintro u v rfl nonempty
    rw [m.afterPrivateKey?_label (x := x ++ u) (by rw [← joined, List.append_assoc]) nonempty]
    rfl

end KeyMarker

/-- A body ends in front of a hyphen. -/
theorem takeWhile_body {body rest : List Char} (plain : ∀ c ∈ body, isBodyChar c = true) :
    (body ++ '-' :: rest).takeWhile isBodyChar = body := by
  rw [List.takeWhile_append_of_pos plain]
  exact List.append_nil _

/-- A body between two markers. -/
structure KeyBlock where
  begins : KeyMarker "-----begin".toList
  body : List Char
  ends : KeyMarker "-----end".toList
  nonempty : body ≠ []
  plain : ∀ c ∈ body, isBodyChar c = true

def KeyBlock.text (b : KeyBlock) : List Char :=
  b.begins.text ++ (b.body ++ b.ends.text)

namespace KeyBlock
variable {before x y : List Char}

theorem text_eq_cons (b : KeyBlock) : ∃ rest, b.text = '-' :: rest := by
  obtain ⟨front, starts⟩ := b.begins.front_spells.eq_hyphen_cons rfl
  exact ⟨_, by rw [text, KeyMarker.text, starts, List.cons_append, List.cons_append]⟩

theorem afterKeyEnd?_text (m : KeyMarker "-----end".toList) (after : List Char) :
    afterKeyEnd? (m.text ++ after) = some after := by
  obtain ⟨inner, suffix', skipped⟩ := m.afterBlanks?_label after
  have found := m.firstOnLine?_label suffix' some (rfl : some after = some after)
  simp only [Option.bind_fun_some] at found
  rw [afterKeyEnd?, m.afterWord?_text (by decide)]
  simp only [Option.bind_eq_bind, Option.bind_some, skipped]
  exact found

theorem keyBodyAndRest?_body (b : KeyBlock) (after : List Char) :
    keyBodyAndRest? (b.body ++ (b.ends.text ++ after)) = some (b.body, after) := by
  have run : (b.body ++ (b.ends.text ++ after)).takeWhile isBodyChar = b.body := by
    obtain ⟨front, starts⟩ := b.ends.front_spells.eq_hyphen_cons rfl
    rw [KeyMarker.text, starts]
    exact takeWhile_body b.plain
  rw [keyBodyAndRest?, run, List.drop_left, afterKeyEnd?_text]
  exact if_neg (by simpa using b.nonempty)

theorem keyBlock?_text (b : KeyBlock) (after : List Char) :
    keyBlock? (b.text ++ after) = some (b.body, after) := by
  obtain ⟨inner, suffix', skipped⟩ := b.begins.afterBlanks?_label (b.body ++ (b.ends.text ++ after))
  simp only [text, List.append_assoc]
  rw [keyBlock?, b.begins.afterWord?_text (by decide)]
  simp only [Option.bind_eq_bind, Option.bind_some, skipped]
  exact b.begins.firstOnLine?_label suffix' keyBodyAndRest? (b.keyBodyAndRest?_body after)

/-- Before the words of its BEGIN marker the reader stops nowhere in the block. -/
theorem firstOnLine?_text (b : KeyBlock) (after : List Char) :
    firstOnLine? (fun cs => (afterPrivateKey? cs).bind keyBodyAndRest?) (b.text ++ after) =
      some (b.body, after) := by
  have found := b.begins.firstOnLine?_label (List.suffix_refl _) keyBodyAndRest?
    (b.keyBodyAndRest?_body after)
  simp only [text, KeyMarker.text, List.append_assoc] at found ⊢
  rw [firstOnLine?_append, found]
  · exact b.begins.front_spells.not_mem (by decide)
  · intro x y joined nonempty
    obtain ⟨c, y, rfl⟩ := List.exists_cons_of_ne_nil nonempty
    have spelled := (map_folded_eq_iff (by decide) _).2 b.begins.front_spells
    have other : folded c ≠ 'p' := by
      intro folds
      refine not_mem_of_folds spelled (c := c) (by rw [folds]; decide) ?_
      simp [joined]
    rw [List.cons_append, afterPrivateKey?_cons_of_ne other]
    rfl

/-- Text up to the end of a line that does not hold the words hides no block behind it. A stray
opening at its end may be taken for that of the block. -/
theorem keyBlock?_across (b : KeyBlock) (free : ¬ ContainsKeyWords before)
    (ends : before = [] ∨ before.getLast? = some '\n') (joined : before = x ++ y)
    (nonempty : y ≠ []) (after : List Char) :
    keyBlock? (y ++ (b.text ++ after)) = none ∨
      keyBlock? (y ++ (b.text ++ after)) = some (b.body, after) := by
  obtain ⟨u, rfl⟩ := exists_eq_concat_feed ends joined nonempty
  obtain ⟨text, starts⟩ := b.text_eq_cons
  have whole := b.firstOnLine?_text after
  rw [starts, List.cons_append] at whole ⊢
  unfold keyBlock?
  cases opened : afterWord? "-----begin".toList (u ++ ['\n'] ++ '-' :: (text ++ after)) with
  | none => exact .inl rfl
  | some rest =>
    obtain ⟨front, spells, hfront⟩ := (afterWord?_eq_some_iff_spells (by decide)).1 opened
    rw [List.append_assoc] at hfront
    obtain ⟨v, rfl, rfl⟩ := exists_of_append_cons_eq hfront (spells.not_mem (by decide))
    simp only [Option.bind_eq_bind, Option.bind_some]
    cases spaced : afterBlanks? (v ++ '\n' :: ([] ++ '-' :: (text ++ after))) with
    | none => exact .inl rfl
    | some inner =>
      obtain ⟨gap, -, blank, hgap, -⟩ := afterBlanks?_eq_some_iff.1 spaced
      have solid : '-' ∉ gap := fun mem => by cases blank '-' mem
      rw [List.nil_append, List.append_cons] at hgap
      obtain ⟨z, hz, rfl⟩ := exists_of_append_cons_eq hgap solid
      -- The blanks behind the stray opening reach up to the block, or else the words would have to
      -- stand on a line that is over.
      rcases List.eq_nil_or_concat z with rfl | ⟨z, c, rfl⟩
      · exact .inr whole
      · rw [List.concat_eq_append, ← List.append_assoc] at hz
        obtain ⟨rfl, hc⟩ := List.append_inj' hz rfl
        obtain rfl := List.singleton_inj.1 hc
        left
        rw [List.concat_eq_append]
        exact firstOnLine?_across free (x := x ++ (front ++ gap))
          (by rw [joined]; simp only [List.append_assoc])

end KeyBlock

/-- One step of the search for blocks. -/
theorem keyBodies_cons (c : Char) (cs : List Char) :
    keyBodies (c :: cs) =
      match keyBlock? (c :: cs) with
      | some (body, rest) => body :: keyBodies rest
      | none => keyBodies cs := by
  rw [keyBodies]
  split
  · rename_i found
    rw [found]
  · rename_i missed
    rw [missed]

/-- A block behind text up to the end of a line is found, and the search goes on behind it. -/
theorem keyBodies_block (b : KeyBlock) {before : List Char} (free : ¬ ContainsKeyWords before)
    (ends : before = [] ∨ before.getLast? = some '\n') (after : List Char) :
    keyBodies (before ++ (b.text ++ after)) = b.body :: keyBodies after := by
  suffices h : ∀ x y, before = x ++ y →
      keyBodies (y ++ (b.text ++ after)) = b.body :: keyBodies after from h [] before rfl
  intro x y joined
  induction y generalizing x with
  | nil =>
    have found := b.keyBlock?_text after
    obtain ⟨text, starts⟩ := b.text_eq_cons
    rw [starts, List.cons_append] at found
    rw [starts, List.nil_append, List.cons_append, keyBodies_cons, found]
  | cons c y ih =>
    have across := b.keyBlock?_across free ends joined (List.cons_ne_nil c y) after
    rw [List.cons_append] at across ⊢
    rw [keyBodies_cons]
    rcases across with missed | found
    · rw [missed]
      exact ih (x ++ [c]) (by rw [joined, List.append_cons])
    · rw [found]

theorem keyBodies_of_not_contains {cs : List Char} (free : ¬ ContainsKeyWords cs) :
    keyBodies cs = [] := by
  induction cs with
  | nil => rw [keyBodies]
  | cons c cs ih =>
    have missed : keyBlock? (c :: cs) = none := by
      cases found : keyBlock? (c :: cs) with
      | none => rfl
      | some block =>
        simp only [keyBlock?, Option.bind_eq_bind, Option.bind_eq_some_iff] at found
        obtain ⟨label, opened, inner, spaced, found⟩ := found
        obtain ⟨front, -, hfront⟩ := afterWord?_eq_some_iff.1 opened
        obtain ⟨gap, -, -, rfl, -⟩ := afterBlanks?_eq_some_iff.1 spaced
        obtain ⟨x, y, rfl, words⟩ := exists_of_firstOnLine? found
        obtain ⟨rest, stopped, -⟩ := Option.bind_eq_some_iff.1 words
        obtain ⟨w, rfl⟩ := afterPrivateKey?_eq_some_iff.1 stopped
        exact absurd ⟨front ++ (gap ++ x), rest, w, by simp only [hfront, List.append_assoc]⟩ free
    rw [keyBodies_cons, missed]
    exact ih fun ⟨before, after, w, joined⟩ =>
      free ⟨c :: before, after, w, by rw [joined, List.cons_append]⟩

end CredentialRotation.Pem
