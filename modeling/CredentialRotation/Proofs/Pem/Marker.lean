import CredentialRotation.Pem.CertificateBlocks

/-!
The grammar of certificate markers: an opening, any label text, CERTIFICATE and five hyphens. Letter
case is that of ASCII only, for no other character folds to a letter of these words.
-/
namespace CredentialRotation.Pem

/-- The text is the given lower-case word, in any letter case. -/
def Spells (word cs : List Char) : Prop :=
  cs.map Char.toLower = word

instance (word cs : List Char) : Decidable (Spells word cs) :=
  inferInstanceAs (Decidable (_ = _))

/-- What a label may hold: all but hyphens and line breaks. -/
def isLabelChar (c : Char) : Bool :=
  c ≠ '-' && c ≠ '\r' && c ≠ '\n'

/-- A certificate marker with the given lower-case opening. -/
structure Marker (opening : List Char) where
  front : List Char
  label : List Char
  word : List Char
  front_spells : Spells opening front
  label_plain : ∀ c ∈ label, isLabelChar c = true
  word_spells : Spells "certificate".toList word

/-- The marker as it is written. -/
def Marker.text {opening : List Char} (m : Marker opening) : List Char :=
  m.front ++ m.label ++ m.word ++ "-----".toList

abbrev BeginMarker := Marker "-----begin ".toList
abbrev EndMarker := Marker "-----end ".toList

/-- The markers in capitals and without a label. -/
def bareBegin : BeginMarker where
  front := "-----BEGIN ".toList
  label := []
  word := "CERTIFICATE".toList
  front_spells := by decide
  label_plain := nofun
  word_spells := by decide

def bareEnd : EndMarker where
  front := "-----END ".toList
  label := []
  word := "CERTIFICATE".toList
  front_spells := by decide
  label_plain := nofun
  word_spells := by decide

section Folding
variable {word cs rest : List Char}

/-- Characters that nothing folds to but their own ASCII cases. -/
def FoldsPlainly (word : List Char) : Prop :=
  ∀ w ∈ word, w.toNat < 128 ∧ w ≠ 'k' ∧ w ≠ 's'

instance (word : List Char) : Decidable (FoldsPlainly word) :=
  List.decidableBAll (fun w : Char => w.toNat < 128 ∧ w ≠ 'k' ∧ w ≠ 's') word

private theorem folded_eq_iff {w : Char} (hw : w.toNat < 128) (hk : w ≠ 'k') (hs : w ≠ 's')
    (c : Char) : folded c = w ↔ c.toLower = w := by
  unfold folded
  split
  · rename_i kelvin
    subst kelvin
    constructor
    · intro h
      exact absurd h.symm hk
    · rintro rfl
      exact absurd hw (by decide)
  split
  · rename_i _ long
    subst long
    constructor
    · intro h
      exact absurd h.symm hs
    · rintro rfl
      exact absurd hw (by decide)
  · rfl

theorem map_folded_eq_iff (plain : FoldsPlainly word) (cs : List Char) :
    cs.map folded = word ↔ Spells word cs := by
  unfold Spells
  induction cs generalizing word with
  | nil => rfl
  | cons c cs ih =>
    cases word with
    | nil => simp
    | cons w word =>
      obtain ⟨⟨hw, hk, hs⟩, plain⟩ := List.forall_mem_cons.1 plain
      simp only [List.map_cons, List.cons.injEq, folded_eq_iff hw hk hs, ih plain]

/-- A word is found at the front exactly where some text folds to it. -/
theorem afterWord?_eq_some_iff :
    afterWord? word cs = some rest ↔ ∃ front, front.map folded = word ∧ cs = front ++ rest := by
  induction word generalizing cs with
  | nil => simp [afterWord?]
  | cons w word ih =>
    cases cs with
    | nil =>
      simp only [afterWord?, reduceCtorEq, false_iff, not_exists, not_and]
      intro front folds empty
      obtain ⟨rfl, -⟩ := List.append_eq_nil_iff.1 empty.symm
      cases folds
    | cons c cs =>
      simp only [afterWord?]
      split
      · rename_i same
        rw [ih]
        constructor
        · rintro ⟨front, folds, rfl⟩
          exact ⟨c :: front, by simp [same, folds], rfl⟩
        · rintro ⟨front, folds, joined⟩
          cases front with
          | nil => cases folds
          | cons d front =>
            obtain ⟨rfl, rfl⟩ := List.cons.inj joined
            exact ⟨front, (List.cons.inj folds).2, rfl⟩
      · rename_i other
        simp only [reduceCtorEq, false_iff, not_exists, not_and]
        intro front folds joined
        cases front with
        | nil => cases folds
        | cons d front =>
          obtain ⟨rfl, rfl⟩ := List.cons.inj joined
          exact other (List.cons.inj folds).1

theorem afterWord?_eq_some_iff_spells (plain : FoldsPlainly word) :
    afterWord? word cs = some rest ↔ ∃ front, Spells word front ∧ cs = front ++ rest := by
  simp only [afterWord?_eq_some_iff, map_folded_eq_iff plain]

end Folding

/-- What is left of a text up to the end of a line is text up to the end of a line. -/
theorem exists_eq_concat_feed {before x y : List Char}
    (ends : before = [] ∨ before.getLast? = some '\n') (joined : before = x ++ y)
    (nonempty : y ≠ []) : ∃ line, y = line ++ ['\n'] := by
  rcases ends with rfl | ends
  · exact absurd (List.append_eq_nil_iff.1 joined.symm).2 nonempty
  · rw [joined, List.getLast?_append, List.getLast?_eq_some_getLast nonempty] at ends
    exact List.getLast?_eq_some_iff.1 ((List.getLast?_eq_some_getLast nonempty).trans ends)

section Spelling
variable {word cs : List Char}

theorem Spells.length_eq (h : Spells word cs) : cs.length = word.length := by
  rw [← h, List.length_map]

/-- Where a word has neither capitals nor a character, no spelling of it has that character. -/
theorem Spells.not_mem {c : Char} (h : Spells word cs) (hc : c.toLower ∉ word) : c ∉ cs := by
  intro mem
  exact hc (h ▸ List.mem_map_of_mem mem)

/-- Only letters have two cases. -/
theorem eq_of_toLower_eq {c w : Char} (h : c.toLower = w) (hw : ¬ w.isLower) : c = w := by
  unfold Char.toLower at h
  split at h
  · rename_i upper
    subst h
    exfalso
    apply hw
    have lo : 65 ≤ c.val.toNat := upper.1
    have hi : c.val.toNat ≤ 90 := upper.2
    have sum : (c.val + ('a'.val - 'A'.val)).toNat = c.val.toNat + 32 := by
      rw [UInt32.toNat_add]
      exact Nat.mod_eq_of_lt (by change _ + 32 < _; omega)
    refine Bool.and_eq_true_iff.2 ⟨decide_eq_true ?_, decide_eq_true ?_⟩
    · change 97 ≤ (c.val + ('a'.val - 'A'.val)).toNat
      omega
    · change (c.val + ('a'.val - 'A'.val)).toNat ≤ 122
      omega
  · exact h

/-- A word without letters is spelled in one way. -/
theorem Spells.eq_of_no_letter (h : Spells word cs) (hw : word.any Char.isLower = false) :
    cs = word := by
  induction cs generalizing word with
  | nil => exact h
  | cons c cs ih =>
    obtain ⟨w, word, rfl⟩ : ∃ w rest, word = w :: rest := ⟨_, _, h.symm⟩
    obtain ⟨first, rest⟩ := List.cons.inj h
    rw [List.any_cons, Bool.or_eq_false_iff] at hw
    rw [eq_of_toLower_eq first (Bool.eq_false_iff.1 hw.1), ih rest hw.2]

/-- Hyphens have one case. -/
theorem Spells.count_hyphen (h : Spells word cs) : cs.count '-' = word.count '-' := by
  rw [← h, List.count_eq_countP, List.count_eq_countP, List.countP_map]
  apply List.countP_congr
  intro c _
  simp only [Function.comp_apply, beq_iff_eq]
  constructor
  · rintro rfl
    decide
  · intro lower
    exact eq_of_toLower_eq lower (by decide)

/-- A hyphen in front of a word is spelled as such. -/
theorem Spells.eq_hyphen_cons (h : Spells word cs) (hyphen : word.head? = some '-') :
    ∃ rest, cs = '-' :: rest := by
  obtain ⟨others, rfl⟩ := List.head?_eq_some_iff.1 hyphen
  obtain ⟨c, rest, rfl, first, -⟩ := List.map_eq_cons_iff.1 h
  exact ⟨rest, by rw [eq_of_toLower_eq first (by decide)]⟩

end Spelling

/-- A text that ends in a hyphen ends no later than one with as many hyphens that starts no earlier:
else the hyphen would be one more. -/
theorem suffix_of_count_hyphen {cs ds x after rest : List Char}
    (ends : ∃ before, cs = before ++ ['-']) (same : ds.count '-' = cs.count '-')
    (joined : cs ++ after = x ++ (ds ++ rest)) : rest <:+ after := by
  rw [← List.append_assoc] at joined
  rcases List.append_eq_append_iff.1 joined with ⟨z, -, rfl⟩ | ⟨z, inside, rfl⟩
  · exact List.suffix_append z rest
  · rcases List.eq_nil_or_concat z with rfl | ⟨z, c, rfl⟩
    · exact List.suffix_refl _
    · exfalso
      obtain ⟨before, last⟩ := ends
      rw [List.concat_eq_append] at inside
      rw [inside, ← List.append_assoc] at last
      obtain rfl := List.singleton_inj.1 (List.append_inj' last rfl).2
      simp only [inside, List.count_append, List.count_singleton_self] at same
      omega

namespace Marker
variable {opening : List Char}

theorem isLabelChar_of_mem_word (m : Marker opening) {c : Char} (h : c ∈ m.word) :
    isLabelChar c = true := by
  have hyphen := m.word_spells.not_mem (c := '-') (by decide)
  have ret := m.word_spells.not_mem (c := '\r') (by decide)
  have feed := m.word_spells.not_mem (c := '\n') (by decide)
  simp only [isLabelChar, Bool.and_eq_true, ne_eq, decide_eq_true_eq]
  refine ⟨⟨?_, ?_⟩, ?_⟩ <;> rintro rfl <;> contradiction

theorem takeWhile_label (m : Marker opening) (rest : List Char) :
    (m.label ++ m.word ++ "-----".toList ++ rest).takeWhile isLabelChar = m.label ++ m.word := by
  rw [List.append_assoc, List.takeWhile_append_of_pos]
  · simp [isLabelChar]
  · intro c mem
    rcases List.mem_append.1 mem with h | h
    · exact m.label_plain c h
    · exact m.isLabelChar_of_mem_word h

/-- A marker whose opening starts with a hyphen is written with this hyphen in front. -/
theorem text_eq_cons (m : Marker opening) (hyphen : opening.head? = some '-') :
    ∃ rest, m.text = '-' :: rest := by
  obtain ⟨front, starts⟩ := m.front_spells.eq_hyphen_cons hyphen
  exact ⟨_, by rw [text, starts, List.cons_append, List.cons_append, List.cons_append]⟩

/-- A marker has the hyphens of its opening and five behind its label. -/
theorem count_hyphen (m : Marker opening) : m.text.count '-' = opening.count '-' + 5 := by
  have label : m.label.count '-' = 0 :=
    List.count_eq_zero.2 fun mem => absurd (m.label_plain '-' mem) (by decide)
  have word : m.word.count '-' = 0 := m.word_spells.count_hyphen
  simp only [text, List.count_append, m.front_spells.count_hyphen, label, word]
  rfl

end Marker

private theorem afterMarker?_eq (opening cs : List Char) :
    afterMarker? opening cs = (afterWord? opening cs).bind fun tail =>
      let run := tail.takeWhile isLabelChar
      if (run.drop (run.length - 11)).map folded = "certificate".toList then
        afterWord? "-----".toList (tail.drop run.length)
      else none := rfl

private theorem exists_marker {opening cs rest : List Char} (plain : FoldsPlainly opening)
    (h : afterMarker? opening cs = some rest) : ∃ m : Marker opening, cs = m.text ++ rest := by
  rw [afterMarker?_eq, Option.bind_eq_some_iff] at h
  obtain ⟨tail, opened, h⟩ := h
  obtain ⟨front, front_spells, rfl⟩ := (afterWord?_eq_some_iff_spells plain).1 opened
  dsimp only at h
  generalize hrun : tail.takeWhile isLabelChar = run at h
  split at h
  · rename_i folds
    have fivePlain : FoldsPlainly "-----".toList := by decide
    obtain ⟨close, hyphens, closed⟩ := (afterWord?_eq_some_iff_spells fivePlain).1 h
    rw [hyphens.eq_of_no_letter (by decide)] at closed
    have joined : tail = run ++ ("-----".toList ++ rest) := by
      obtain ⟨left, hleft⟩ := List.takeWhile_prefix isLabelChar (l := tail)
      rw [hrun] at hleft
      rw [← closed, ← hleft, List.drop_left]
    have label_plain : ∀ c ∈ run.take (run.length - 11), isLabelChar c = true := by
      intro c mem
      rw [← hrun] at mem
      exact List.all_eq_true.1 List.all_takeWhile c (List.mem_of_mem_take mem)
    have wordPlain : FoldsPlainly "certificate".toList := by decide
    have word_spells := (map_folded_eq_iff wordPlain _).1 folds
    -- The last eleven characters of the run are its word, and what stands before them its label.
    refine ⟨⟨front, run.take (run.length - 11), run.drop (run.length - 11), front_spells,
      label_plain, word_spells⟩, ?_⟩
    rw [Marker.text, joined, List.append_assoc front, List.take_append_drop]
    simp only [List.append_assoc]
  · cases h

private theorem afterMarker?_marker {opening : List Char} (plain : FoldsPlainly opening)
    (m : Marker opening) (rest : List Char) :
    afterMarker? opening (m.text ++ rest) = some rest := by
  have opened : afterWord? opening (m.text ++ rest) =
      some (m.label ++ m.word ++ "-----".toList ++ rest) :=
    (afterWord?_eq_some_iff_spells plain).2
      ⟨m.front, m.front_spells, by simp only [Marker.text, List.append_assoc]⟩
  have length : m.word.length = 11 := m.word_spells.length_eq
  have word : (m.label ++ m.word).drop ((m.label ++ m.word).length - 11) = m.word := by
    rw [List.length_append, length, Nat.add_sub_cancel, List.drop_left]
  have folds : m.word.map folded = "certificate".toList :=
    (map_folded_eq_iff (by decide) _).2 m.word_spells
  rw [afterMarker?_eq, opened, Option.bind_some]
  simp only [m.takeWhile_label, word, folds, if_true]
  rw [List.append_assoc, List.drop_left]
  exact (afterWord?_eq_some_iff_spells (by decide)).2 ⟨_, by decide, rfl⟩

/-- A marker is found at the front exactly where the text starts with one. -/
theorem afterMarker?_eq_some_iff {opening cs rest : List Char} (plain : FoldsPlainly opening) :
    afterMarker? opening cs = some rest ↔ ∃ m : Marker opening, cs = m.text ++ rest := by
  constructor
  · exact exists_marker plain
  · rintro ⟨m, rfl⟩
    exact afterMarker?_marker plain m rest

end CredentialRotation.Pem
