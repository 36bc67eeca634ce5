import CredentialRotation.Proofs.Pem.Marker

/-!
Where the search for certificate blocks stops. A marker is never found across a line feed, and the
body of a block ends at the first hyphen, so each block is found as it was written.
-/
namespace CredentialRotation.Pem

section Splitting
variable {marker? : List Char → Option (List Char)} {cs before after rest : List Char}

/-- A text is split at the first of its places where a marker is found. -/
theorem splitAt?_eq_some_iff :
    splitAt? marker? cs = some (before, rest) ↔
      ∃ after, cs = before ++ after ∧ after ≠ [] ∧ marker? after = some rest ∧
        ∀ x y, before = x ++ y → y ≠ [] → marker? (y ++ after) = none := by
  induction cs generalizing before with
  | nil =>
    simp only [splitAt?, reduceCtorEq, false_iff, not_exists, not_and]
    intro after joined nonempty
    exact absurd (List.append_eq_nil_iff.1 joined.symm).2 nonempty
  | cons c cs ih =>
    rw [splitAt?]
    split
    · rename_i left found
      simp only [Option.some.injEq, Prod.mk.injEq]
      constructor
      · rintro ⟨rfl, rfl⟩
        refine ⟨c :: cs, rfl, List.cons_ne_nil c cs, found, ?_⟩
        intro x y empty nonempty
        exact absurd (List.append_eq_nil_iff.1 empty.symm).2 nonempty
      · rintro ⟨after, joined, nonempty, here, first⟩
        cases before with
        | nil =>
          obtain rfl : c :: cs = after := joined
          exact ⟨rfl, Option.some.inj (found.symm.trans here)⟩
        | cons d before =>
          have earlier := first [] (d :: before) rfl (List.cons_ne_nil d before)
          rw [← joined, found] at earlier
          cases earlier
    · rename_i missed
      simp only [Option.map_eq_some_iff, Prod.exists, Prod.mk.injEq]
      constructor
      · rintro ⟨before, rest, h, rfl, rfl⟩
        obtain ⟨after, rfl, nonempty, here, first⟩ := ih.1 h
        refine ⟨after, rfl, nonempty, here, ?_⟩
        intro x y joined hy
        cases x with
        | nil =>
          obtain rfl : c :: before = y := joined
          exact missed
        | cons d x =>
          exact first x y (List.cons.inj joined).2 hy
      · rintro ⟨after, joined, nonempty, here, first⟩
        cases before with
        | nil =>
          obtain rfl : c :: cs = after := joined
          rw [missed] at here
          cases here
        | cons d before =>
          obtain ⟨rfl, rfl⟩ := List.cons.inj joined
          refine ⟨before, rest, ih.2 ⟨after, rfl, nonempty, here, ?_⟩, rfl, rfl⟩
          intro x y split hy
          exact first (c :: x) y (by rw [split, List.cons_append]) hy

theorem splitAt?_eq_none (h : ∀ x y, cs = x ++ y → y ≠ [] → marker? y = none) :
    splitAt? marker? cs = none := by
  cases found : splitAt? marker? cs with
  | none => rfl
  | some result =>
    obtain ⟨after, joined, nonempty, here, -⟩ := splitAt?_eq_some_iff.1 found
    rw [h _ after joined nonempty] at here
    cases here

theorem splitAt?_eq_none_iff :
    splitAt? marker? cs = none ↔ ∀ x y, cs = x ++ y → y ≠ [] → marker? y = none := by
  refine ⟨?_, splitAt?_eq_none⟩
  induction cs with
  | nil =>
    intro _ x y joined nonempty
    exact absurd (List.append_eq_nil_iff.1 joined.symm).2 nonempty
  | cons c cs ih =>
    intro h x y joined nonempty
    rw [splitAt?] at h
    split at h
    · cases h
    · rename_i missed
      cases x with
      | nil =>
        obtain rfl : c :: cs = y := joined
        exact missed
      | cons d x => exact ih (Option.map_eq_none_iff.1 h) x y (List.cons.inj joined).2 nonempty

end Splitting

/-- Somewhere in the text stands a marker. -/
def ContainsMarker (opening cs : List Char) : Prop :=
  ∃ before after, ∃ m : Marker opening, cs = before ++ m.text ++ after

section Finding
variable {opening : List Char}

theorem not_containsMarker_nil : ¬ ContainsMarker opening [] := by
  rintro ⟨before, after, m, joined⟩
  have empty := (List.append_eq_nil_iff.1 (List.append_eq_nil_iff.1 joined.symm).1).2
  exact absurd (List.append_eq_nil_iff.1 empty).2 (by decide)

theorem Marker.feed_not_mem (feed : '\n' ∉ opening) (m : Marker opening) : '\n' ∉ m.text := by
  simp only [Marker.text, List.mem_append, not_or]
  refine ⟨⟨⟨m.front_spells.not_mem feed, ?_⟩, m.word_spells.not_mem (by decide)⟩, by decide⟩
  intro mem
  exact absurd (m.label_plain _ mem) (by decide)

/-- Of the parts into which hyphens divide a text with a BEGIN marker, one is what stands between
the hyphens of the marker. -/
theorem exists_part_of_containsMarker {cs : List Char}
    (h : ContainsMarker "-----begin ".toList cs) :
    ∃ part ∈ cs.splitOn '-', ' ' ∈ part ∧
      Spells "certificate".toList (part.drop (part.length - 11)) := by
  obtain ⟨before, after, m, rfl⟩ := h
  have spells : Spells ("----".toList ++ '-' :: "begin ".toList) m.front := m.front_spells
  obtain ⟨hyphens, rest, front, hyphensSpell, restSpells⟩ := List.map_eq_append_iff.1 spells
  obtain ⟨last, opening, rfl, hyphen, openingSpells⟩ := List.map_eq_cons_iff.1 restSpells
  obtain rfl := eq_of_toLower_eq hyphen (by decide)
  have blank : ' ' ∈ opening := by
    have mem : ' ' ∈ opening.map Char.toLower := openingSpells ▸ by decide
    obtain ⟨c, mem, lower⟩ := List.mem_map.1 mem
    rwa [eq_of_toLower_eq lower (by decide)] at mem
  have solid : ∀ c ∈ opening ++ m.label ++ m.word, (c == '-') = false := by
    intro c mem
    refine beq_false_of_ne ?_
    rintro rfl
    rcases List.mem_append.1 mem with mem | mem
    · rcases List.mem_append.1 mem with mem | mem
      · exact (show Spells "begin ".toList opening from openingSpells).not_mem (by decide) mem
      · exact absurd (m.label_plain '-' mem) (by decide)
    · exact m.word_spells.not_mem (by decide) mem
  have length : m.word.length = 11 := m.word_spells.length_eq
  refine ⟨opening ++ m.label ++ m.word, ?_, by simp [blank], ?_⟩
  · have joined : before ++ m.text ++ after = (before ++ hyphens) ++
        '-' :: ((opening ++ m.label ++ m.word) ++ '-' :: ("----".toList ++ after)) := by
      simp [Marker.text, front]
    rw [joined, List.splitOn, List.splitOnP_append_cons _ _ (by decide),
      List.splitOnP_append_cons_of_forall_mem solid '-' (by decide)]
    exact List.mem_append_right _ List.mem_cons_self
  · rw [List.length_append, length, Nat.add_sub_cancel, List.drop_left]
    exact m.word_spells

/-- Text without a marker, up to the end of a line, shows none to what follows either. -/
theorem afterMarker?_across (plain : FoldsPlainly opening) (feed : '\n' ∉ opening)
    {before : List Char} (free : ¬ ContainsMarker opening before)
    (ends : before = [] ∨ before.getLast? = some '\n') {x y : List Char} (joined : before = x ++ y)
    (nonempty : y ≠ []) (after : List Char) : afterMarker? opening (y ++ after) = none := by
  cases found : afterMarker? opening (y ++ after) with
  | none => rfl
  | some rest =>
    obtain ⟨m, hm⟩ := (afterMarker?_eq_some_iff plain).1 found
    obtain ⟨line, hline⟩ := exists_eq_concat_feed ends joined nonempty
    -- Either the marker would hold the last line feed, or it would stand in the text.
    rcases List.append_eq_append_iff.1 hm with ⟨z, hz, -⟩ | ⟨z, hz, -⟩
    · refine absurd ?_ (m.feed_not_mem feed)
      rw [hz, hline]
      exact List.mem_append_left z (List.mem_append_right line List.mem_cons_self)
    · exact absurd ⟨x, z, m, by rw [joined, hz, List.append_assoc]⟩ free

theorem splitAt?_of_not_contains (plain : FoldsPlainly opening) {cs : List Char}
    (free : ¬ ContainsMarker opening cs) : splitAt? (afterMarker? opening) cs = none := by
  apply splitAt?_eq_none
  intro x y joined nonempty
  cases found : afterMarker? opening y with
  | none => rfl
  | some rest =>
    obtain ⟨m, rfl⟩ := (afterMarker?_eq_some_iff plain).1 found
    exact absurd ⟨x, rest, m, by rw [joined, List.append_assoc]⟩ free

end Finding

theorem afterEnd?_cons_of_ne {c : Char} (h : c ≠ '-') (cs : List Char) :
    afterEnd? (c :: cs) = none := by
  cases found : afterEnd? (c :: cs) with
  | none => rfl
  | some rest =>
    obtain ⟨m, hm⟩ := (afterMarker?_eq_some_iff (by decide)).1 found
    obtain ⟨text, starts⟩ := m.text_eq_cons rfl
    rw [starts] at hm
    exact absurd (List.cons.inj hm).1 h

/-- One step of the search for blocks. -/
theorem certificateBodies_eq (cs : List Char) :
    certificateBodies cs =
      match splitAt? afterBegin? cs with
      | none => []
      | some (_, inner) =>
        match splitAt? afterEnd? inner with
        | none => []
        | some (body, rest) => body :: certificateBodies rest := by
  rw [certificateBodies]
  split
  · rename_i missed
    rw [missed]
  · rename_i opened
    split
    · rename_i missed
      simp only [opened, missed]
    · rename_i closed
      simp only [opened, closed]

/-- Behind text without a BEGIN marker the next one is the first. -/
theorem splitAt?_begin {before : List Char} (b : BeginMarker)
    (free : ¬ ContainsMarker "-----begin ".toList before)
    (ends : before = [] ∨ before.getLast? = some '\n') (after : List Char) :
    splitAt? afterBegin? (before ++ (b.text ++ after)) = some (before, after) := by
  refine splitAt?_eq_some_iff.2 ⟨_, rfl, ?_, ?_, ?_⟩
  · intro empty
    simp [Marker.text] at empty
  · exact (afterMarker?_eq_some_iff (by decide)).2 ⟨b, rfl⟩
  · intro x y joined nonempty
    exact afterMarker?_across (by decide) (by decide) free ends joined nonempty _

/-- Behind text without a hyphen the next END marker is the first. -/
theorem splitAt?_end {body : List Char} (e : EndMarker) (plain : '-' ∉ body) (after : List Char) :
    splitAt? afterEnd? (body ++ (e.text ++ after)) = some (body, after) := by
  refine splitAt?_eq_some_iff.2 ⟨_, rfl, ?_, ?_, ?_⟩
  · intro empty
    simp [Marker.text] at empty
  · exact (afterMarker?_eq_some_iff (by decide)).2 ⟨e, rfl⟩
  · intro x y joined nonempty
    obtain ⟨c, y, rfl⟩ := List.exists_cons_of_ne_nil nonempty
    rw [List.cons_append]
    apply afterEnd?_cons_of_ne
    rintro rfl
    exact plain (by simp [joined])

/-- The block behind text without a BEGIN marker is the next one found: its body reaches to the
first hyphen, and the search goes on behind its END marker. -/
theorem certificateBodies_block {before body after : List Char} (b : BeginMarker) (e : EndMarker)
    (free : ¬ ContainsMarker "-----begin ".toList before)
    (ends : before = [] ∨ before.getLast? = some '\n') (plain : '-' ∉ body) :
    certificateBodies (before ++ (b.text ++ (body ++ (e.text ++ after)))) =
      body :: certificateBodies after := by
  rw [certificateBodies_eq, splitAt?_begin b free ends]
  dsimp only
  rw [splitAt?_end e plain]

theorem certificateBodies_of_not_contains {cs : List Char}
    (free : ¬ ContainsMarker "-----begin ".toList cs) : certificateBodies cs = [] := by
  have missed : splitAt? afterBegin? cs = none := splitAt?_of_not_contains (by decide) free
  rw [certificateBodies_eq, missed]

/-- A marker that is found behind text up to the end of a line stands wholly behind it. -/
theorem splitAt?_across {opening before cs front rest : List Char} (plain : FoldsPlainly opening)
    (feed : '\n' ∉ opening) (free : ¬ ContainsMarker opening before)
    (ends : before = [] ∨ before.getLast? = some '\n')
    (found : splitAt? (afterMarker? opening) (before ++ cs) = some (front, rest)) :
    ∃ skipped, ∃ m : Marker opening, cs = skipped ++ (m.text ++ rest) := by
  obtain ⟨after, joined, -, here, -⟩ := splitAt?_eq_some_iff.1 found
  have behind : ∃ skipped, cs = skipped ++ after := by
    rcases List.append_eq_append_iff.1 joined with ⟨y, -, hy⟩ | ⟨y, hy, hafter⟩
    · exact ⟨y, hy⟩
    · by_cases nonempty : y = []
      · subst nonempty
        exact ⟨[], hafter.symm⟩
      · rw [hafter, afterMarker?_across plain feed free ends hy nonempty] at here
        cases here
  obtain ⟨skipped, rfl⟩ := behind
  obtain ⟨m, rfl⟩ := (afterMarker?_eq_some_iff plain).1 here
  exact ⟨skipped, m, rfl⟩

/-- The two markers of a block have twenty hyphens, so fewer are no block. -/
theorem certificateBodies_of_count {before cs : List Char}
    (free : ¬ ContainsMarker "-----begin ".toList before)
    (ends : before = [] ∨ before.getLast? = some '\n') (few : cs.count '-' < 20) :
    certificateBodies (before ++ cs) = [] := by
  rw [certificateBodies_eq]
  cases opened : splitAt? afterBegin? (before ++ cs) with
  | none => rfl
  | some found =>
    obtain ⟨front, inner⟩ := found
    obtain ⟨skipped, b, rfl⟩ := splitAt?_across (by decide) (by decide) free ends opened
    dsimp only
    cases closed : splitAt? afterEnd? inner with
    | none => rfl
    | some found =>
      obtain ⟨body, rest⟩ := found
      rw [← List.nil_append inner] at closed
      obtain ⟨skipped', e, rfl⟩ :=
        splitAt?_across (by decide) (by decide) not_containsMarker_nil (.inl rfl) closed
      have begins : b.text.count '-' = 10 := b.count_hyphen
      have ends : e.text.count '-' = 10 := e.count_hyphen
      simp only [List.count_append] at few
      omega

end CredentialRotation.Pem
