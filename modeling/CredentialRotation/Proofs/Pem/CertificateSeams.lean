import CredentialRotation.Proofs.Pem.CertificateScan

/-!
Where two texts meet. A marker stands on one line, so in front of the end of a line the same blocks
are found whatever follows, and the search goes on from behind the last of them.
-/
namespace CredentialRotation.Pem

/-- A character that ends a line. -/
def isLineBreak (c : Char) : Bool :=
  c = '\n' || c = '\r'

/-- All lines of the text are ended. -/
def EndsLine (cs : List Char) : Prop :=
  ∀ c, cs.getLast? = some c → isLineBreak c = true

namespace EndsLine
variable {x y : List Char}

theorem nil : EndsLine [] := nofun

theorem of_feed (ends : x = [] ∨ x.getLast? = some '\n') : EndsLine x := by
  rcases ends with rfl | feed
  · exact nil
  · intro c last
    obtain rfl := Option.some.inj (feed.symm.trans last)
    rfl

/-- So are those of what is left of it. -/
theorem of_append (h : EndsLine (x ++ y)) : EndsLine y := by
  intro c last
  exact h c (by rw [List.getLast?_append, last, Option.some_or])

theorem exists_break (h : EndsLine x) (nonempty : x ≠ []) : ∃ c ∈ x, isLineBreak c = true :=
  ⟨_, List.getLast_mem nonempty, h _ (List.getLast?_eq_some_getLast nonempty)⟩

end EndsLine

section Markers
variable {opening : List Char}

/-- A marker stands on one line. -/
theorem Marker.not_isLineBreak (solid : opening.all (!isLineBreak ·)) (m : Marker opening) {c : Char}
    (mem : c ∈ m.text) : isLineBreak c = false := by
  have opens {b : Char} (same : b.toLower = b) (broken : isLineBreak b = true) :
      b.toLower ∉ opening := by
    intro mem
    have other := List.all_eq_true.1 solid _ mem
    rw [same, broken] at other
    cases other
  have away {b : Char} (front : b ∉ m.front) (label : b ∉ m.label) (word : b ∉ m.word)
      (hyphen : b ∉ "-----".toList) : b ∉ m.text := by
    simp only [Marker.text, List.mem_append, not_or]
    exact ⟨⟨⟨front, label⟩, word⟩, hyphen⟩
  have plain {b : Char} (other : isLabelChar b = false) : b ∉ m.label := by
    intro mem
    rw [m.label_plain b mem] at other
    cases other
  refine Bool.eq_false_iff.2 fun broken => ?_
  rcases Bool.or_eq_true_iff.1 broken with feed | ret
  · obtain rfl := of_decide_eq_true feed
    exact away (m.front_spells.not_mem (opens rfl broken)) (plain rfl)
      (m.word_spells.not_mem (by decide)) (by decide) mem
  · obtain rfl := of_decide_eq_true ret
    exact away (m.front_spells.not_mem (opens rfl broken)) (plain rfl)
      (m.word_spells.not_mem (by decide)) (by decide) mem

/-- A marker that starts in front of the end of a line ends there too. -/
theorem Marker.exists_left (solid : opening.all (!isLineBreak ·)) (m : Marker opening)
    {y after rest : List Char} (ends : EndsLine y) (nonempty : y ≠ [])
    (joined : y ++ after = m.text ++ rest) : ∃ z, y = m.text ++ z ∧ rest = z ++ after := by
  obtain ⟨c, mem, broken⟩ := ends.exists_break nonempty
  rcases List.append_eq_append_iff.1 joined with ⟨z, inside, -⟩ | ⟨z, hy, hrest⟩
  · have other := m.not_isLineBreak solid (inside ▸ List.mem_append_left z mem)
    rw [broken] at other
    cases other
  · exact ⟨z, hy, hrest⟩

theorem afterMarker?_append (plain : FoldsPlainly opening) (solid : opening.all (!isLineBreak ·))
    {y : List Char} (ends : EndsLine y) (nonempty : y ≠ []) (after : List Char) :
    afterMarker? opening (y ++ after) = (afterMarker? opening y).map (· ++ after) := by
  cases found : afterMarker? opening y with
  | some rest =>
    obtain ⟨m, rfl⟩ := (afterMarker?_eq_some_iff plain).1 found
    exact (afterMarker?_eq_some_iff plain).2 ⟨m, List.append_assoc _ _ _⟩
  | none =>
    rw [Option.map_none, Option.eq_none_iff_forall_ne_some]
    intro rest later
    obtain ⟨m, joined⟩ := (afterMarker?_eq_some_iff plain).1 later
    obtain ⟨z, here, -⟩ := m.exists_left solid ends nonempty joined
    rw [(afterMarker?_eq_some_iff plain).2 ⟨m, here⟩] at found
    cases found

/-- The first marker of a text that ends a line is the first whatever follows. Without one, the
search goes on in what follows. -/
theorem splitAt?_append (plain : FoldsPlainly opening) (solid : opening.all (!isLineBreak ·))
    {cs : List Char} (ends : EndsLine cs) (after : List Char) :
    splitAt? (afterMarker? opening) (cs ++ after) =
      match splitAt? (afterMarker? opening) cs with
      | some (before, rest) => some (before, rest ++ after)
      | none =>
        (splitAt? (afterMarker? opening) after).map fun split => (cs ++ split.1, split.2) := by
  induction cs with
  | nil =>
    change splitAt? (afterMarker? opening) after =
      (splitAt? (afterMarker? opening) after).map fun split => ([] ++ split.1, split.2)
    cases splitAt? (afterMarker? opening) after <;> rfl
  | cons c cs ih =>
    have here := afterMarker?_append plain solid ends (List.cons_ne_nil c cs) after
    rw [List.cons_append] at here
    rw [List.cons_append, splitAt?, splitAt?, here]
    cases afterMarker? opening (c :: cs) with
    | some rest => rfl
    | none =>
      dsimp only [Option.map_none]
      rw [ih (ends.of_append (x := [c]))]
      cases splitAt? (afterMarker? opening) cs with
      | some found => rfl
      | none => cases splitAt? (afterMarker? opening) after <;> rfl

theorem splitAt?_append_of_some (plain : FoldsPlainly opening)
    (solid : opening.all (!isLineBreak ·)) {cs before rest : List Char} (ends : EndsLine cs)
    (found : splitAt? (afterMarker? opening) cs = some (before, rest)) (after : List Char) :
    splitAt? (afterMarker? opening) (cs ++ after) = some (before, rest ++ after) := by
  rw [splitAt?_append plain solid ends, found]

theorem splitAt?_append_of_none (plain : FoldsPlainly opening)
    (solid : opening.all (!isLineBreak ·)) {cs : List Char} (ends : EndsLine cs)
    (missed : splitAt? (afterMarker? opening) cs = none) (after : List Char) :
    splitAt? (afterMarker? opening) (cs ++ after) =
      (splitAt? (afterMarker? opening) after).map fun split => (cs ++ split.1, split.2) := by
  rw [splitAt?_append plain solid ends, missed]

/-- What is behind the first marker still ends a line. -/
theorem EndsLine.of_splitAt? (plain : FoldsPlainly opening) {cs before rest : List Char}
    (ends : EndsLine cs) (found : splitAt? (afterMarker? opening) cs = some (before, rest)) :
    EndsLine rest := by
  obtain ⟨m, rfl, -⟩ := (splitAt?_marker_eq_some_iff plain).1 found
  exact ends.of_append.of_append

end Markers

/-- What is left behind the last complete block of a text. -/
def behindBlocks (cs : List Char) : List Char :=
  match h : splitAt? afterBegin? cs with
  | none => cs
  | some (_, inner) =>
    match h' : splitAt? afterEnd? inner with
    | none => cs
    | some (_, rest) =>
      have : rest.length < cs.length :=
        Nat.lt_trans (splitAt?_length (fun _ _ => afterMarker?_length) h')
          (splitAt?_length (fun _ _ => afterMarker?_length) h)
      behindBlocks rest
  termination_by cs.length

section Blocks
variable {cs : List Char}

theorem behindBlocks_of_not_contains (free : ¬ ContainsMarker "-----begin ".toList cs) :
    behindBlocks cs = cs := by
  have missed : splitAt? afterBegin? cs = none := splitAt?_of_not_contains (by decide) free
  rw [behindBlocks]
  split
  · rfl
  · rename_i opened
    rw [missed] at opened
    cases opened

theorem behindBlocks_block {before body : List Char} (b : BeginMarker) (e : EndMarker)
    (free : ¬ ContainsMarker "-----begin ".toList before)
    (ends : before = [] ∨ before.getLast? = some '\n') (plain : '-' ∉ body) (after : List Char) :
    behindBlocks (before ++ (b.text ++ (body ++ (e.text ++ after)))) = behindBlocks after := by
  have opened := splitAt?_begin b free ends (body ++ (e.text ++ after))
  have closed := splitAt?_end e plain after
  rw [behindBlocks]
  split
  · rename_i missed
    rw [opened] at missed
    cases missed
  · rename_i opened'
    obtain ⟨rfl, rfl⟩ := Prod.mk.inj (Option.some.inj (opened.symm.trans opened'))
    split
    · rename_i missed
      rw [closed] at missed
      cases missed
    · rename_i closed'
      obtain ⟨-, rfl⟩ := Prod.mk.inj (Option.some.inj (closed.symm.trans closed'))
      rfl

theorem behindBlocks_suffix (cs : List Char) : behindBlocks cs <:+ cs := by
  fun_induction behindBlocks cs with
  | case1 | case2 => exact List.suffix_refl _
  | case3 cs before inner opened body rest closed shorter ih =>
    have suffix {opening cs before rest : List Char} (plain : FoldsPlainly opening)
        (found : splitAt? (afterMarker? opening) cs = some (before, rest)) : rest <:+ cs := by
      obtain ⟨m, rfl, -⟩ := (splitAt?_marker_eq_some_iff plain).1 found
      exact ⟨before ++ m.text, List.append_assoc _ _ _⟩
    exact ih.trans ((suffix (by decide) closed).trans (suffix (by decide) opened))

theorem endsLine_behindBlocks (ends : EndsLine cs) : EndsLine (behindBlocks cs) := by
  obtain ⟨front, joined⟩ := behindBlocks_suffix cs
  rw [← joined] at ends
  exact ends.of_append

theorem certificateBodies_behindBlocks (cs : List Char) :
    certificateBodies (behindBlocks cs) = [] := by
  fun_induction behindBlocks cs with
  | case1 cs missed => rw [certificateBodies_eq, missed]
  | case2 cs before inner opened missed =>
    rw [certificateBodies_eq, opened]
    dsimp only
    rw [missed]
  | case3 cs before inner opened body rest closed shorter ih => exact ih

/-- Where all lines are ended, the blocks of a text are found whatever follows it, and the next
block is sought from behind the last of them. -/
theorem certificateBodies_append (ends : EndsLine cs) (after : List Char) :
    certificateBodies (cs ++ after) =
      certificateBodies cs ++ certificateBodies (behindBlocks cs ++ after) := by
  fun_induction behindBlocks cs with
  | case1 cs missed => rw [certificateBodies_eq cs, missed, List.nil_append]
  | case2 cs before inner opened missed =>
    rw [certificateBodies_eq cs, opened]
    dsimp only
    rw [missed, List.nil_append]
  | case3 cs before inner opened body rest closed shorter ih =>
    have inner_ends : EndsLine inner := ends.of_splitAt? (by decide) opened
    have rest_ends : EndsLine rest := inner_ends.of_splitAt? (by decide) closed
    have opened' : splitAt? afterBegin? (cs ++ after) = some (before, inner ++ after) :=
      splitAt?_append_of_some (by decide) (by decide) ends opened after
    have closed' : splitAt? afterEnd? (inner ++ after) = some (body, rest ++ after) :=
      splitAt?_append_of_some (by decide) (by decide) inner_ends closed after
    rw [certificateBodies_eq cs, certificateBodies_eq (cs ++ after), opened, opened']
    dsimp only
    rw [closed, closed']
    dsimp only
    rw [ih rest_ends, List.cons_append]

/-- Lines without a BEGIN marker may as well be left out. -/
theorem certificateBodies_append_of_free (free : ¬ ContainsMarker "-----begin ".toList cs)
    (ends : EndsLine cs) (after : List Char) :
    certificateBodies (cs ++ after) = certificateBodies after := by
  have missed : splitAt? afterBegin? cs = none := splitAt?_of_not_contains (by decide) free
  have later : splitAt? afterBegin? (cs ++ after) =
      (splitAt? afterBegin? after).map fun split => (cs ++ split.1, split.2) :=
    splitAt?_append_of_none (by decide) (by decide) ends missed after
  rw [certificateBodies_eq, certificateBodies_eq after, later]
  cases splitAt? afterBegin? after <;> rfl

/-- Where no BEGIN marker stands behind the last block, two texts have the blocks of the one and
those of the other. -/
theorem certificateBodies_append_of_closed
    (closed : ¬ ContainsMarker "-----begin ".toList (behindBlocks cs)) (ends : EndsLine cs)
    (after : List Char) :
    certificateBodies (cs ++ after) = certificateBodies cs ++ certificateBodies after := by
  rw [certificateBodies_append ends,
    certificateBodies_append_of_free closed (endsLine_behindBlocks ends)]

end Blocks
end CredentialRotation.Pem
