import CredentialRotation.Proofs.Pem.BlockPatterns

/-!
Private key blocks as a scan for blocks with shortest runs, which is what the search that is run
finds. The blanks of a marker are not told apart from those in front of its run: all ways to part
them come to the same block.
-/
namespace CredentialRotation.Pem

section Lines
variable {α : Type} {reader : List Char → Option α} {cs : List Char} {a : α}

/-- The first place on the line is behind the shortest run that the reader accepts. -/
theorem firstOnLine?_eq_some_iff :
    firstOnLine? reader cs = some a ↔ ∃ run rest, cs = run ++ rest ∧ '\n' ∉ run ∧
      reader rest = some a ∧ ∀ x y, run = x ++ y → y ≠ [] → reader (y ++ rest) = none := by
  constructor
  · intro h
    induction cs with
    | nil =>
      refine ⟨[], [], rfl, by simp, h, fun x y joined nonempty => ?_⟩
      exact absurd (List.append_eq_nil_iff.1 joined.symm).2 nonempty
    | cons c cs ih =>
      rw [firstOnLine?] at h
      split at h
      · rename_i found
        refine ⟨[], c :: cs, rfl, by simp, found.trans h, fun x y joined nonempty => ?_⟩
        exact absurd (List.append_eq_nil_iff.1 joined.symm).2 nonempty
      · rename_i missed
        split at h
        · cases h
        · rename_i other
          obtain ⟨run, rest, rfl, line, found, earlier⟩ := ih h
          refine ⟨c :: run, rest, rfl, by simp [Ne.symm other, line], found, ?_⟩
          intro x y joined nonempty
          cases x with
          | nil =>
            obtain rfl : c :: run = y := joined
            exact missed
          | cons d x => exact earlier x y (List.cons.inj joined).2 nonempty
  · rintro ⟨run, rest, rfl, line, found, earlier⟩
    rw [firstOnLine?_append line earlier]
    exact firstOnLine?_of_some found

theorem firstOnLine?_isSome_iff :
    (firstOnLine? reader cs).isSome ↔
      ∃ run rest, cs = run ++ rest ∧ '\n' ∉ run ∧ (reader rest).isSome := by
  constructor
  · intro h
    obtain ⟨a, found⟩ := Option.isSome_iff_exists.1 h
    obtain ⟨run, rest, joined, line, here, -⟩ := firstOnLine?_eq_some_iff.1 found
    exact ⟨run, rest, joined, line, Option.isSome_of_eq_some here⟩
  · rintro ⟨run, rest, rfl, line, found⟩
    obtain ⟨a, found⟩ := Option.isSome_iff_exists.1 found
    induction run with
    | nil => exact Option.isSome_of_eq_some (firstOnLine?_of_some found)
    | cons c run ih =>
      obtain ⟨other, others⟩ := not_or.1 (mt List.mem_cons.2 line)
      rw [List.cons_append, firstOnLine?]
      split
      · rfl
      · rw [if_neg (Ne.symm other)]
        exact ih others

end Lines

/-- A marker of a private key with any run between the blanks and PRIVATE that does not leave its
line. -/
structure RunMarker (opening : List Char) where
  front : List Char
  gap : List Char
  run : List Char
  words : KeyWords
  front_spells : Spells opening front
  gap_nonempty : gap ≠ []
  gap_blank : ∀ c ∈ gap, isBlank c = true
  run_line : '\n' ∉ run

namespace RunMarker
variable {opening cs after : List Char}

def text (m : RunMarker opening) : List Char :=
  m.front ++ (m.gap ++ (m.run ++ m.words.text))

theorem text_eq_cons (m : RunMarker opening) (hyphen : opening.head? = some '-') :
    ∃ text, m.text = '-' :: text := by
  obtain ⟨front, starts⟩ := m.front_spells.eq_hyphen_cons hyphen
  exact ⟨_, by rw [text, starts, List.cons_append]⟩

/-- No shorter run leads to the two words with something complete behind them. -/
def Shortest (m : RunMarker opening) (Complete : List Char → Prop) (after : List Char) : Prop :=
  ∀ x y, m.run = x ++ y → y ≠ [] → ∀ (w : KeyWords) (rest : List Char),
    y ++ (m.words.text ++ after) = w.text ++ rest → ¬ Complete rest

/-- Where the blanks end does not matter, since PRIVATE starts with none. -/
theorem afterBlanks?_gap (m : RunMarker opening) (after : List Char) :
    afterBlanks? (m.gap ++ (m.run ++ (m.words.text ++ after))) =
      some (m.run.dropWhile isBlank ++ (m.words.text ++ after)) := by
  refine afterBlanks?_eq_some_iff.2 ⟨m.gap ++ m.run.takeWhile isBlank, ?_, ?_, ?_,
    m.words.head?_dropWhile m.run after⟩
  · exact fun empty => m.gap_nonempty (List.append_eq_nil_iff.1 empty).1
  · intro c mem
    rcases List.mem_append.1 mem with mem | mem
    · exact m.gap_blank c mem
    · exact List.all_eq_true.1 List.all_takeWhile c mem
  · rw [List.append_assoc, ← List.append_assoc (List.takeWhile _ _),
      List.takeWhile_append_dropWhile]

section Reading
variable {α : Type} {next : List Char → Option α} {a : α}

theorem keyMarkerThen?_text (plain : FoldsPlainly opening) (m : RunMarker opening)
    (after : List Char) :
    keyMarkerThen? opening next (m.text ++ after) =
      firstOnLine? (fun label => (afterPrivateKey? label).bind next)
        (m.run.dropWhile isBlank ++ (m.words.text ++ after)) := by
  have opened : afterWord? opening (m.text ++ after) =
      some (m.gap ++ (m.run ++ (m.words.text ++ after))) :=
    (afterWord?_eq_some_iff_spells plain).2
      ⟨m.front, m.front_spells, by simp only [text, List.append_assoc]⟩
  rw [keyMarkerThen?, opened, Option.bind_some, m.afterBlanks?_gap, Option.bind_some]

/-- The search finds the marker with the shortest run. -/
theorem keyMarkerThen?_eq_some_iff (plain : FoldsPlainly opening) :
    keyMarkerThen? opening next cs = some a ↔
      ∃ (m : RunMarker opening) (after : List Char), cs = m.text ++ after ∧
        next after = some a ∧ m.Shortest (fun rest => (next rest).isSome) after := by
  constructor
  · intro h
    obtain ⟨left, opened, behind⟩ := Option.bind_eq_some_iff.1 h
    obtain ⟨front, front_spells, rfl⟩ := (afterWord?_eq_some_iff_spells plain).1 opened
    obtain ⟨inner, spaced, found⟩ := Option.bind_eq_some_iff.1 behind
    obtain ⟨gap, gap_nonempty, gap_blank, rfl, -⟩ := afterBlanks?_eq_some_iff.1 spaced
    obtain ⟨run, label, rfl, run_line, found, earlier⟩ := firstOnLine?_eq_some_iff.1 found
    obtain ⟨after, words, here⟩ := Option.bind_eq_some_iff.1 found
    obtain ⟨w, rfl⟩ := afterPrivateKey?_eq_some_iff.1 words
    refine ⟨⟨front, gap, run, w, front_spells, gap_nonempty, gap_blank, run_line⟩, after,
      by simp only [text, List.append_assoc], here, ?_⟩
    intro x y joined nonempty w' rest starts complete
    have missed := earlier x y joined nonempty
    rw [starts, afterPrivateKey?_eq_some_iff.2 ⟨w', rfl⟩, Option.bind_some] at missed
    rw [missed] at complete
    cases complete
  · rintro ⟨m, after, rfl, found, shortest⟩
    rw [keyMarkerThen?_text plain]
    obtain ⟨skipped, joined⟩ := List.dropWhile_suffix isBlank (l := m.run)
    refine firstOnLine?_eq_some_iff.2 ⟨_, _, rfl, ?_, ?_, ?_⟩
    · exact fun feed => m.run_line (joined ▸ List.mem_append_right skipped feed)
    · rw [afterPrivateKey?_eq_some_iff.2 ⟨m.words, rfl⟩, Option.bind_some, found]
    · intro x y parted nonempty
      cases words : afterPrivateKey? (y ++ (m.words.text ++ after)) with
      | none => rfl
      | some rest =>
        obtain ⟨w, starts⟩ := afterPrivateKey?_eq_some_iff.1 words
        have incomplete := shortest (skipped ++ x) y
          (by rw [← joined, parted, List.append_assoc]) nonempty w rest starts
        exact Option.not_isSome_iff_eq_none.1 incomplete

/-- The search finds something wherever there is a marker, with whatever run, and something behind
it. -/
theorem keyMarkerThen?_isSome_iff (plain : FoldsPlainly opening) :
    (keyMarkerThen? opening next cs).isSome ↔
      ∃ (m : RunMarker opening) (after : List Char), cs = m.text ++ after ∧
        (next after).isSome := by
  constructor
  · intro h
    obtain ⟨a, found⟩ := Option.isSome_iff_exists.1 h
    obtain ⟨m, after, joined, here, -⟩ := (keyMarkerThen?_eq_some_iff plain).1 found
    exact ⟨m, after, joined, Option.isSome_of_eq_some here⟩
  · rintro ⟨m, after, rfl, found⟩
    have line : '\n' ∉ m.run.dropWhile isBlank := fun feed =>
      m.run_line ((List.dropWhile_suffix isBlank).subset feed)
    rw [keyMarkerThen?_text plain]
    refine firstOnLine?_isSome_iff.2 ⟨_, _, rfl, line, ?_⟩
    rw [afterPrivateKey?_eq_some_iff.2 ⟨m.words, rfl⟩, Option.bind_some]
    exact found

end Reading
end RunMarker

/-- At least one character, all of them Base64 symbols in any letter case, pads and line breaks. -/
def IsKeyBody (body : List Char) : Prop :=
  body ≠ [] ∧ ∀ c ∈ body, isBodyChar c = true

/-- Behind a BEGIN marker the block is completed: by a body and an END marker. -/
def ClosesKey (inner : List Char) : Prop :=
  ∃ (body : List Char) (e : RunMarker "-----end".toList) (rest : List Char),
    IsKeyBody body ∧ inner = body ++ (e.text ++ rest)

/-- At the front of a text stands a block with this body, and this follows it. The run of the BEGIN
marker is the shortest with which the block is completed, and the run of the END marker the shortest
of all. -/
def KeyBlockAt (cs body rest : List Char) : Prop :=
  ∃ (b : RunMarker "-----begin".toList) (e : RunMarker "-----end".toList),
    cs = b.text ++ (body ++ (e.text ++ rest)) ∧ IsKeyBody body ∧
      b.Shortest ClosesKey (body ++ (e.text ++ rest)) ∧ e.Shortest (fun _ => True) rest

section Reading
variable {cs body rest : List Char}

theorem afterKeyEnd?_eq_some_iff :
    afterKeyEnd? cs = some rest ↔
      ∃ e : RunMarker "-----end".toList, cs = e.text ++ rest ∧ e.Shortest (fun _ => True) rest := by
  rw [afterKeyEnd?_eq, RunMarker.keyMarkerThen?_eq_some_iff (by decide)]
  simp only [Option.isSome_some, Option.some.injEq]
  constructor
  · rintro ⟨e, after, joined, rfl, shortest⟩
    exact ⟨e, joined, shortest⟩
  · rintro ⟨e, joined, shortest⟩
    exact ⟨e, rest, joined, rfl, shortest⟩

theorem afterKeyEnd?_isSome_iff :
    (afterKeyEnd? cs).isSome ↔ ∃ (e : RunMarker "-----end".toList) (rest : List Char),
      cs = e.text ++ rest := by
  rw [afterKeyEnd?_eq, RunMarker.keyMarkerThen?_isSome_iff (by decide)]
  simp only [Option.isSome_some, and_true]

/-- The body is all that can be one, since no hyphen can. -/
theorem keyBodyAndRest?_append {e : RunMarker "-----end".toList} (h : IsKeyBody body) :
    keyBodyAndRest? (body ++ (e.text ++ rest)) =
      (afterKeyEnd? (e.text ++ rest)).map fun rest => (body, rest) := by
  have run : (body ++ (e.text ++ rest)).takeWhile isBodyChar = body := by
    obtain ⟨text, starts⟩ := e.text_eq_cons rfl
    rw [starts]
    exact takeWhile_body h.2
  rw [keyBodyAndRest?, run, List.drop_left]
  exact if_neg (by simpa using h.1)

private theorem exists_of_keyBodyAndRest? {inner : List Char}
    (h : keyBodyAndRest? inner = some (body, rest)) :
    IsKeyBody body ∧ ∃ left, inner = body ++ left ∧ afterKeyEnd? left = some rest := by
  rw [keyBodyAndRest?] at h
  split at h
  · cases h
  · rename_i nonempty
    obtain ⟨rest, closed, same⟩ := Option.map_eq_some_iff.1 h
    obtain ⟨rfl, rfl⟩ := Prod.mk.inj same
    refine ⟨⟨by simpa using nonempty, fun c => List.all_eq_true.1 List.all_takeWhile c⟩, _, ?_,
      closed⟩
    exact (List.prefix_iff_eq_append.1 (List.takeWhile_prefix isBodyChar)).symm

theorem keyBodyAndRest?_eq_some_iff {inner : List Char} :
    keyBodyAndRest? inner = some (body, rest) ↔
      IsKeyBody body ∧ ∃ e : RunMarker "-----end".toList, inner = body ++ (e.text ++ rest) ∧
        e.Shortest (fun _ => True) rest := by
  constructor
  · intro h
    obtain ⟨isBody, left, rfl, closed⟩ := exists_of_keyBodyAndRest? h
    obtain ⟨e, rfl, shortest⟩ := afterKeyEnd?_eq_some_iff.1 closed
    exact ⟨isBody, e, rfl, shortest⟩
  · rintro ⟨isBody, e, rfl, shortest⟩
    rw [keyBodyAndRest?_append isBody, afterKeyEnd?_eq_some_iff.2 ⟨e, rfl, shortest⟩]
    rfl

theorem keyBodyAndRest?_isSome_iff {inner : List Char} :
    (keyBodyAndRest? inner).isSome ↔ ClosesKey inner := by
  constructor
  · intro h
    obtain ⟨⟨body, rest⟩, found⟩ := Option.isSome_iff_exists.1 h
    obtain ⟨isBody, e, rfl, -⟩ := keyBodyAndRest?_eq_some_iff.1 found
    exact ⟨body, e, rest, isBody, rfl⟩
  · rintro ⟨body, e, rest, isBody, rfl⟩
    rw [keyBodyAndRest?_append isBody, Option.isSome_map]
    exact afterKeyEnd?_isSome_iff.2 ⟨e, rest, rfl⟩

/-- The search finds at the front of a text the block that stands there. -/
theorem keyBlock?_eq_some_iff : keyBlock? cs = some (body, rest) ↔ KeyBlockAt cs body rest := by
  rw [keyBlock?_eq, RunMarker.keyMarkerThen?_eq_some_iff (by decide)]
  simp only [keyBodyAndRest?_isSome_iff, keyBodyAndRest?_eq_some_iff]
  constructor
  · rintro ⟨b, _, joined, ⟨isBody, e, rfl, nearest⟩, shortest⟩
    exact ⟨b, e, joined, isBody, shortest, nearest⟩
  · rintro ⟨b, e, joined, isBody, shortest, nearest⟩
    exact ⟨b, _, joined, ⟨isBody, e, rfl, nearest⟩, shortest⟩

theorem keyBlock?_isSome_iff :
    (keyBlock? cs).isSome ↔ ∃ (b : RunMarker "-----begin".toList) (inner : List Char),
      cs = b.text ++ inner ∧ ClosesKey inner := by
  rw [keyBlock?_eq, RunMarker.keyMarkerThen?_isSome_iff (by decide)]
  simp only [keyBodyAndRest?_isSome_iff]

end Reading

theorem KeyBlockAt.unique {cs body rest body' rest' : List Char} (h : KeyBlockAt cs body rest)
    (h' : KeyBlockAt cs body' rest') : body = body' ∧ rest = rest' :=
  Prod.mk.inj (Option.some.inj
    ((keyBlock?_eq_some_iff.2 h).symm.trans (keyBlock?_eq_some_iff.2 h')))

theorem not_keyBlockAt_of_none {cs : List Char} (missed : keyBlock? cs = none)
    (body rest : List Char) : ¬ KeyBlockAt cs body rest := by
  intro here
  rw [keyBlock?_eq_some_iff.2 here] at missed
  cases missed

/-- One block after the other is taken, each at the first place behind the one before. -/
theorem scan_keyBodies (cs : List Char) : Scan KeyBlockAt cs (keyBodies cs) := by
  induction cs using keyBodies.induct with
  | case1 =>
    rw [keyBodies]
    refine .stop fun x y joined body rest => ?_
    obtain ⟨rfl, rfl⟩ := List.append_eq_nil_iff.1 joined.symm
    exact not_keyBlockAt_of_none rfl body rest
  | case2 c cs body rest found ih =>
    rw [keyBodies_cons, found, ← List.nil_append (c :: cs)]
    refine .next (fun x y joined nonempty => ?_) (keyBlock?_eq_some_iff.1 found) ih
    exact absurd (List.append_eq_nil_iff.1 joined.symm).2 nonempty
  | case3 c cs missed ih =>
    rw [keyBodies_cons, missed]
    exact .cons (not_keyBlockAt_of_none missed) ih

/-- The scan for blocks ends on every text, with the bodies of the search that is run. -/
theorem scan_keyBlockAt_iff {cs : List Char} {found : List (List Char)} :
    Scan KeyBlockAt cs found ↔ found = keyBodies cs := by
  constructor
  · intro h
    refine h.unique ?_ (scan_keyBodies cs)
    exact KeyBlockAt.unique
  · rintro rfl
    exact scan_keyBodies cs

/-- The matches of the pattern are the blocks, so its scan has the same bodies. -/
theorem scan_keyPattern_iff {cs : List Char} {found : List (List Char)} :
    Scan keyPattern.At cs found ↔ found = keyBodies cs := by
  have same : keyPattern.At = KeyBlockAt := by
    funext cs body rest
    rw [CapturePattern.At, match?_keyPattern, keyBlock?_eq_some_iff]
  rw [same, scan_keyBlockAt_iff]

end CredentialRotation.Pem
