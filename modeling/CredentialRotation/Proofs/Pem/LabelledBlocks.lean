import CredentialRotation.Proofs.Pem.CertificateSeams

/-!
Blocks between marker lines with any label. A marker that is searched for has no hyphen in its
label, so the label decides whether the two lines are seen.
-/
namespace CredentialRotation.Pem

/-- A marker as it may stand on a line: any text of the line may come before CERTIFICATE. -/
structure LineMarker (opening : List Char) where
  front : List Char
  label : List Char
  word : List Char
  front_spells : Spells opening front
  label_inLine : ∀ c ∈ label, isLineBreak c = false
  word_spells : Spells "certificate".toList word

/-- The marker as it is written. -/
def LineMarker.text {opening : List Char} (m : LineMarker opening) : List Char :=
  m.front ++ m.label ++ m.word ++ "-----".toList

theorem isLabelChar_iff {c : Char} : isLabelChar c = true ↔ c ≠ '-' ∧ isLineBreak c = false := by
  simp only [isLabelChar, isLineBreak, Bool.and_eq_true, Bool.or_eq_false_iff, decide_eq_true_eq,
    decide_eq_false_iff_not]
  tauto

/-- Without a hyphen in its label it is one of the markers that are searched for. -/
def LineMarker.toMarker {opening : List Char} (m : LineMarker opening) (plain : '-' ∉ m.label) :
    Marker opening where
  front := m.front
  label := m.label
  word := m.word
  front_spells := m.front_spells
  label_plain c mem := isLabelChar_iff.2 ⟨fun same => plain (same ▸ mem), m.label_inLine c mem⟩
  word_spells := m.word_spells

def Marker.toLineMarker {opening : List Char} (m : Marker opening) : LineMarker opening where
  front := m.front
  label := m.label
  word := m.word
  front_spells := m.front_spells
  label_inLine c mem := (isLabelChar_iff.1 (m.label_plain c mem)).2
  word_spells := m.word_spells

/-- Somewhere in the text stands a marker with any label. -/
def ContainsLineMarker (opening cs : List Char) : Prop :=
  ∃ before after, ∃ m : LineMarker opening, cs = before ++ m.text ++ after

theorem ContainsMarker.toLineMarker {opening cs : List Char} (h : ContainsMarker opening cs) :
    ContainsLineMarker opening cs := by
  obtain ⟨before, after, m, joined⟩ := h
  exact ⟨before, after, m.toLineMarker, joined⟩

/-- The next line starts here, if there is anything. -/
def StartsBreak (cs : List Char) : Prop :=
  ∀ c, cs.head? = some c → isLineBreak c = true

theorem StartsBreak.feed (cs : List Char) : StartsBreak ('\n' :: cs) :=
  fun _ first => Option.some.inj first ▸ rfl

/-- Two marker lines with one label, and no line with a marker between them. -/
structure LabelledBlock where
  before : List Char
  begins : LineMarker "-----begin ".toList
  inner : List Char
  ends : LineMarker "-----end ".toList
  behind : List Char
  before_ends : EndsLine before
  inner_nonempty : inner ≠ []
  inner_starts : StartsBreak inner
  inner_ends : EndsLine inner
  behind_starts : StartsBreak behind
  same_label : begins.label.map Char.toLower = ends.label.map Char.toLower
  no_begin : ¬ ContainsLineMarker "-----begin ".toList inner
  no_end : ¬ ContainsLineMarker "-----end ".toList inner

namespace LabelledBlock

/-- The text from the BEGIN line on. -/
def rest (b : LabelledBlock) : List Char :=
  b.begins.text ++ (b.inner ++ (b.ends.text ++ b.behind))

/-- The text with the block in it. -/
def text (b : LabelledBlock) : List Char :=
  b.before ++ b.rest

/-- No block is opened on either of the two lines. -/
def IsHidden (b : LabelledBlock) : Prop :=
  ¬ ContainsMarker "-----begin ".toList b.begins.text ∧
    ¬ ContainsMarker "-----begin ".toList b.ends.text

end LabelledBlock

section Hyphens
variable {front cs word before after : List Char}

private theorem eq_hyphen_of_mem {c : Char} (mem : c ∈ "-----".toList) : c = '-' :=
  List.eq_of_mem_replicate (n := 5) mem

/-- Hyphens next to text without any do not reach into it. -/
theorem hyphens_infix_append (left : '-' ∉ front) (right : '-' ∉ word) :
    "-----".toList <:+: front ++ cs ++ word ↔ "-----".toList <:+: cs := by
  have hyphen {part : List Char} (some : part ≠ []) (run : part ⊆ "-----".toList) :
      '-' ∈ part := by
    obtain ⟨c, mem⟩ := List.exists_mem_of_ne_nil part some
    exact eq_hyphen_of_mem (run mem) ▸ mem
  refine ⟨fun h => ?_,
    fun h => List.infix_append_of_infix_left (List.infix_append_of_infix_right h)⟩
  rcases List.infix_append_iff_ne_nil.1 h with h | within | ⟨_, part, -, some, run, -, starts⟩
  · rcases List.infix_append_iff_ne_nil.1 h with within | h | ⟨part, _, some, -, run, ends, -⟩
    · exact absurd (within.mem List.mem_cons_self) left
    · exact h
    · exact absurd (ends.mem (hyphen some (run ▸ List.subset_append_left _ _))) left
  · exact absurd (within.mem List.mem_cons_self) right
  · exact absurd (starts.mem (hyphen some (run ▸ List.subset_append_right _ _))) right

/-- Text that starts and ends with other characters and has nowhere five hyphens in a row adds none
to those around it: five hyphens stand at the front or at the end of the whole only. -/
theorem hyphens_at_ends (front_some : front ≠ []) (word_some : word ≠ []) (left : '-' ∉ front)
    (right : '-' ∉ word) (apart : ¬ "-----".toList <:+: cs)
    (joined : "-----".toList ++ ((front ++ cs ++ word) ++ "-----".toList) =
      before ++ ("-----".toList ++ after)) :
    before = [] ∨ before = "-----".toList ++ (front ++ cs ++ word) := by
  have apart' : ¬ "-----".toList <:+: front ++ cs ++ word :=
    mt (hyphens_infix_append left right).1 apart
  rcases List.append_eq_append_iff.1 joined with ⟨x, rfl, behind⟩ | ⟨x, opened, behind⟩
  · rcases List.append_eq_append_iff.1 behind with ⟨y, rfl, short⟩ | ⟨y, split, covers⟩
    · have size := congrArg List.length short
      simp only [List.length_append] at size
      obtain rfl := List.length_eq_zero_iff.1 (show y.length = 0 by omega)
      exact .inr (by rw [List.append_nil])
    · refine .inr ?_
      cases last : y.getLast? with
      | none => rw [split, List.getLast?_eq_none_iff.1 last, List.append_nil]
      | some c =>
        rcases List.append_eq_append_iff.1 covers with ⟨z, rfl, -⟩ | ⟨z, run, -⟩
        · exact absurd ⟨x, z, by rw [split, List.append_assoc]⟩ apart'
        · have mem : c ∈ "-----".toList :=
            run ▸ List.mem_append_left z (List.mem_of_getLast? last)
          have last' := congrArg List.getLast? split
          rw [List.getLast?_append, List.getLast?_eq_some_getLast word_some, Option.some_or,
            List.getLast?_append, last, Option.some_or, eq_hyphen_of_mem mem] at last'
          exact absurd (Option.some.inj last' ▸ List.getLast_mem word_some) right
  · cases before with
    | nil => exact .inl rfl
    | cons c before =>
      have size := congrArg List.length opened
      simp only [List.length_append, List.length_cons] at size
      obtain ⟨f, front, rfl⟩ := List.exists_cons_of_ne_nil front_some
      rcases List.append_eq_append_iff.1 behind with ⟨y, long, -⟩ | ⟨y, run, starts⟩
      · have size' := congrArg List.length long
        rw [List.length_append] at size'
        omega
      · cases y with
        | nil =>
          rw [run, List.append_nil] at size
          omega
        | cons d y =>
          obtain ⟨rfl, -⟩ := List.cons.inj starts
          have mem : f ∈ "-----".toList := run ▸ List.mem_append_right x List.mem_cons_self
          exact absurd (eq_hyphen_of_mem mem ▸ List.mem_cons_self) left

/-- The letter case of a text changes nothing about its hyphens. -/
theorem hyphen_mem_map_toLower : '-' ∈ cs.map Char.toLower ↔ '-' ∈ cs := by
  rw [List.mem_map]
  constructor
  · rintro ⟨c, mem, same⟩
    exact eq_of_toLower_eq same (by decide) ▸ mem
  · intro mem
    exact ⟨'-', mem, rfl⟩

theorem hyphens_infix_map_toLower :
    "-----".toList <:+: cs.map Char.toLower ↔ "-----".toList <:+: cs := by
  rw [List.infix_map_iff]
  constructor
  · rintro ⟨part, within, same⟩
    exact Spells.eq_of_no_letter same.symm (by decide) ▸ within
  · intro within
    exact ⟨_, within, rfl⟩

end Hyphens

section Lines
variable {opening x y : List Char}

/-- A marker in two texts that meet between lines is in one of them. -/
theorem ContainsMarker.of_append (solid : opening.all (!isLineBreak ·))
    (seam : EndsLine x ∨ StartsBreak y) (h : ContainsMarker opening (x ++ y)) :
    ContainsMarker opening x ∨ ContainsMarker opening y := by
  obtain ⟨before, after, m, joined⟩ := h
  have away {c : Char} (mem : c ∈ m.text) (broken : isLineBreak c = true) : False := by
    rw [m.not_isLineBreak solid mem] at broken
    cases broken
  rcases List.append_eq_append_iff.1 joined with ⟨z, inside, hy⟩ | ⟨z, hx, -⟩
  · rcases List.append_eq_append_iff.1 inside with ⟨w, hx, hm⟩ | ⟨w, -, hz⟩
    · -- The marker would go from the one text into the other.
      rcases seam with ends | starts
      · by_cases empty : w = []
        · subst empty
          exact .inr ⟨[], after, m, by rw [hy, hm]; rfl⟩
        · rw [hx] at ends
          obtain ⟨c, mem, broken⟩ := ends.of_append.exists_break empty
          exact (away (hm ▸ List.mem_append_left z mem) broken).elim
      · cases z with
        | nil => exact .inl ⟨before, [], m, by rw [hx, hm]; simp⟩
        | cons c z =>
          have broken := starts c (by rw [hy]; rfl)
          exact (away (hm ▸ List.mem_append_right w List.mem_cons_self) broken).elim
    · exact .inr ⟨w, after, m, by rw [hy, hz]⟩
  · exact .inl ⟨before, z, m, hx⟩

/-- A line break alone is no marker. -/
theorem not_containsMarker_break {c : Char} (hyphen : opening.head? = some '-')
    (broken : isLineBreak c = true) : ¬ ContainsMarker opening [c] := by
  rintro ⟨before, after, m, joined⟩
  obtain ⟨text, front⟩ := m.text_eq_cons hyphen
  have mem : '-' ∈ m.text := front ▸ List.mem_cons_self
  have mem' : '-' ∈ [c] := joined ▸ List.mem_append_left after (List.mem_append_right before mem)
  obtain rfl := List.mem_singleton.1 mem'
  cases broken

end Lines

section Skipping
variable {x after : List Char}

/-- Text without a BEGIN marker may as well be left out where a line ends between it and what
follows. -/
theorem certificateBodies_skip (free : ¬ ContainsMarker "-----begin ".toList x)
    (seam : EndsLine x ∨ StartsBreak after) :
    certificateBodies (x ++ after) = certificateBodies after := by
  rcases seam with ends | starts
  · exact certificateBodies_append_of_free free ends after
  · cases after with
    | nil =>
      rw [List.append_nil, certificateBodies_of_not_contains free,
        certificateBodies_of_not_contains not_containsMarker_nil]
    | cons c after =>
      -- The line break may as well be taken for the end of the text in front.
      have broken := starts c rfl
      have single : EndsLine [c] := fun d last => Option.some.inj last ▸ broken
      have single' : StartsBreak [c] := fun d first => Option.some.inj first ▸ broken
      have alone : ¬ ContainsMarker "-----begin ".toList [c] :=
        not_containsMarker_break rfl broken
      have free' : ¬ ContainsMarker "-----begin ".toList (x ++ [c]) := fun h =>
        (h.of_append (by decide) (.inr single')).elim free alone
      have ends' : EndsLine (x ++ [c]) := fun d last => by
        rw [List.getLast?_concat] at last
        exact Option.some.inj last ▸ broken
      rw [List.append_cons, certificateBodies_append_of_free free' ends',
        ← certificateBodies_append_of_free alone single, List.singleton_append]

/-- Without an END marker no block is found. -/
theorem certificateBodies_of_no_end (free : ¬ ContainsMarker "-----end ".toList x) :
    certificateBodies x = [] := by
  rw [certificateBodies_eq]
  cases opened : splitAt? afterBegin? x with
  | none => rfl
  | some found =>
    obtain ⟨front, inner⟩ := found
    obtain ⟨b, rfl, -⟩ := (splitAt?_marker_eq_some_iff (by decide)).1 opened
    have missed : splitAt? afterEnd? inner = none := by
      refine splitAt?_of_not_contains (by decide) ?_
      rintro ⟨before, rest, e, rfl⟩
      exact free ⟨front ++ (b.text ++ before), rest, e, by simp only [List.append_assoc]⟩
    dsimp only
    rw [missed]

/-- A block that is open behind lines takes all that follows up to the next END marker. -/
theorem certificateBodies_append_of_open (ends : EndsLine x)
    (opened : ContainsMarker "-----begin ".toList (behindBlocks x)) (after : List Char) :
    ∃ left, certificateBodies (x ++ after) = certificateBodies x ++
      match splitAt? afterEnd? after with
      | none => []
      | some (body, rest) => (left ++ body) :: certificateBodies rest := by
  have none_left := certificateBodies_behindBlocks x
  have ends' := endsLine_behindBlocks ends
  rw [certificateBodies_eq] at none_left
  cases found : splitAt? afterBegin? (behindBlocks x) with
  | none => exact absurd opened ((splitAt?_marker_eq_none_iff (by decide)).1 found)
  | some split =>
    obtain ⟨front, left⟩ := split
    have ends'' : EndsLine left := ends'.of_splitAt? (by decide) found
    rw [found] at none_left
    cases closed : splitAt? afterEnd? left with
    | some split =>
      simp only [closed] at none_left
      cases none_left
    | none =>
      have found' : splitAt? afterBegin? (behindBlocks x ++ after) = some (front, left ++ after) :=
        splitAt?_append_of_some (by decide) (by decide) ends' found after
      have closed' : splitAt? afterEnd? (left ++ after) =
          (splitAt? afterEnd? after).map fun split => (left ++ split.1, split.2) :=
        splitAt?_append_of_none (by decide) (by decide) ends'' closed after
      refine ⟨left, ?_⟩
      rw [certificateBodies_append ends, certificateBodies_eq (behindBlocks x ++ after), found']
      dsimp only
      rw [closed']
      cases splitAt? afterEnd? after <;> rfl

end Skipping

namespace LineMarker
variable {opening : List Char}

theorem text_eq_cons (m : LineMarker opening) (hyphen : opening.head? = some '-') :
    ∃ rest, m.text = '-' :: rest := by
  obtain ⟨front, starts⟩ := m.front_spells.eq_hyphen_cons hyphen
  exact ⟨_, by rw [text, starts, List.cons_append, List.cons_append, List.cons_append]⟩

theorem hyphen_mem_of_contains {cs : List Char} (hyphen : opening.head? = some '-')
    (h : ContainsLineMarker opening cs) : '-' ∈ cs := by
  obtain ⟨before, after, m, rfl⟩ := h
  obtain ⟨rest, starts⟩ := m.text_eq_cons hyphen
  exact List.mem_append_left after
    (List.mem_append_right before (starts ▸ List.mem_cons_self))

/-- The sixth character tells a BEGIN marker from an END marker. -/
theorem afterEnd?_text (m : LineMarker "-----begin ".toList) (after : List Char) :
    afterEnd? (m.text ++ after) = none := by
  cases found : afterEnd? (m.text ++ after) with
  | none => rfl
  | some rest =>
    obtain ⟨e, joined⟩ := (afterMarker?_eq_some_iff (by decide)).1 found
    have six {word front : List Char} (spells : Spells word front) (long : 6 ≤ word.length)
        (x : List Char) : ((front ++ x).take 6).map Char.toLower = word.take 6 := by
      rw [List.take_append_of_le_length (spells.length_eq.symm ▸ long), List.map_take, spells]
    have here := six m.front_spells (by decide) (m.label ++ m.word ++ "-----".toList ++ after)
    have other := six e.front_spells (by decide) (e.label ++ e.word ++ "-----".toList ++ rest)
    simp only [text, Marker.text, List.append_assoc] at joined here other
    rw [joined, other] at here
    exact absurd here (by decide)

/-- A marker is a text between two times five hyphens. -/
theorem exists_text_eq {word : List Char} (m : LineMarker opening)
    (split : opening = "-----".toList ++ word) :
    ∃ front, Spells word front ∧
      m.text = "-----".toList ++ ((front ++ m.label ++ m.word) ++ "-----".toList) := by
  obtain ⟨hyphens, front, parts, spells, others⟩ :=
    List.map_eq_append_iff.1 (m.front_spells.trans split)
  refine ⟨front, others, ?_⟩
  rw [text, parts, Spells.eq_of_no_letter spells (by decide)]
  simp only [List.append_assoc]

theorem hyphen_not_mem_word (m : LineMarker opening) : '-' ∉ m.word :=
  m.word_spells.not_mem (by decide)

/-- A line with hyphens in its label, but nowhere five in a row, holds no marker that is searched
for. -/
theorem not_containsMarker (m : LineMarker opening) (word : List Char)
    (split : opening = "-----".toList ++ word) (nonempty : word ≠ []) (solid : '-' ∉ word)
    (hyphen : '-' ∈ m.label) (apart : ¬ "-----".toList <:+: m.label) :
    ¬ ContainsMarker "-----begin ".toList m.text := by
  rintro ⟨before, after, b, joined⟩
  obtain ⟨front, spells, text⟩ := m.exists_text_eq split
  obtain ⟨front', spells', text'⟩ : ∃ front, Spells "begin ".toList front ∧
      b.text = "-----".toList ++ ((front ++ b.label ++ b.word) ++ "-----".toList) :=
    b.toLineMarker.exists_text_eq rfl
  have plain : '-' ∉ front' ++ b.label ++ b.word := by
    simp only [List.mem_append, not_or]
    exact ⟨⟨spells'.not_mem (by decide), fun mem => absurd (b.label_plain _ mem) (by decide)⟩,
      b.toLineMarker.hyphen_not_mem_word⟩
  have front_some : front ≠ [] := fun empty =>
    nonempty (spells.symm.trans (congrArg (List.map Char.toLower) empty))
  have word_some : m.word ≠ [] := fun empty =>
    absurd (m.word_spells.symm.trans (congrArg (List.map Char.toLower) empty)) (by decide)
  have ends {x y : List Char}
      (found : "-----".toList ++ ((front ++ m.label ++ m.word) ++ "-----".toList) =
        x ++ ("-----".toList ++ y)) :
      x = [] ∨ x = "-----".toList ++ (front ++ m.label ++ m.word) :=
    hyphens_at_ends front_some word_some (spells.not_mem solid) m.hyphen_not_mem_word apart found
  have found : "-----".toList ++ ((front ++ m.label ++ m.word) ++ "-----".toList) =
      before ++ ("-----".toList ++
        ((front' ++ b.label ++ b.word) ++ ("-----".toList ++ after))) := by
    rw [← text, joined, text']
    simp only [List.append_assoc]
  rcases ends found with rfl | rfl
  · -- The hyphens behind the label of the marker would be those at the end of the line.
    have rest : "-----".toList ++ ((front ++ m.label ++ m.word) ++ "-----".toList) =
        ("-----".toList ++ (front' ++ b.label ++ b.word)) ++ ("-----".toList ++ after) := by
      rw [found]
      simp only [List.append_assoc, List.nil_append]
    rcases ends rest with empty | same
    · cases empty
    · rw [List.append_cancel_left same] at plain
      simp [hyphen] at plain
  · have size := congrArg List.length found
    simp only [List.length_append, show "-----".toList.length = 5 from rfl] at size
    omega

end LineMarker

namespace LabelledBlock
variable (b : LabelledBlock)

theorem hyphen_mem_ends : '-' ∈ b.ends.label ↔ '-' ∈ b.begins.label := by
  rw [← hyphen_mem_map_toLower, ← b.same_label, hyphen_mem_map_toLower]

theorem hyphens_infix_ends :
    "-----".toList <:+: b.ends.label ↔ "-----".toList <:+: b.begins.label := by
  rw [← hyphens_infix_map_toLower, ← b.same_label, hyphens_infix_map_toLower]

/-- Hyphens in the label hide a block, unless five in a row may be those of a marker. -/
theorem isHidden (hyphen : '-' ∈ b.begins.label) (apart : ¬ "-----".toList <:+: b.begins.label) :
    b.IsHidden :=
  ⟨b.begins.not_containsMarker "begin ".toList rfl (by decide) (by decide) hyphen apart,
    b.ends.not_containsMarker "end ".toList rfl (by decide) (by decide)
      (b.hyphen_mem_ends.2 hyphen) (mt b.hyphens_infix_ends.1 apart)⟩

/-- Where no block is open, a block with a plain label is the next one. -/
theorem certificateBodies_rest_of_plain (plain : '-' ∉ b.begins.label) :
    certificateBodies b.rest = b.inner :: certificateBodies b.behind := by
  have opened : splitAt? afterBegin? b.rest = some ([], b.inner ++ (b.ends.text ++ b.behind)) :=
    splitAt?_begin (b.begins.toMarker plain) not_containsMarker_nil (.inl rfl) _
  have missed : splitAt? afterEnd? b.inner = none :=
    splitAt?_of_not_contains (by decide) fun h => b.no_end h.toLineMarker
  have here : splitAt? afterEnd? (b.ends.text ++ b.behind) = some ([], b.behind) :=
    @splitAt?_end [] (b.ends.toMarker (mt b.hyphen_mem_ends.1 plain)) List.not_mem_nil b.behind
  have closed : splitAt? afterEnd? (b.inner ++ (b.ends.text ++ b.behind)) =
      (splitAt? afterEnd? (b.ends.text ++ b.behind)).map fun split =>
        (b.inner ++ split.1, split.2) :=
    splitAt?_append_of_none (by decide) (by decide) b.inner_ends missed _
  rw [certificateBodies_eq b.rest, opened]
  dsimp only
  rw [closed, here, Option.map_some]
  dsimp only
  rw [List.append_nil]

/-- Where no block is open, the lines of a hidden block may as well be left out. -/
theorem certificateBodies_rest_of_hidden (hidden : b.IsHidden) :
    certificateBodies b.rest = certificateBodies b.behind := by
  have starts : StartsBreak (b.inner ++ (b.ends.text ++ b.behind)) := by
    intro c first
    rw [List.head?_append_of_ne_nil _ b.inner_nonempty] at first
    exact b.inner_starts c first
  rw [rest, certificateBodies_skip hidden.1 (.inr starts),
    certificateBodies_skip (fun h => b.no_begin h.toLineMarker) (.inl b.inner_ends),
    certificateBodies_skip hidden.2 (.inr b.behind_starts)]

/-- Where no body has a hyphen, no block is open in front of a marker line, or no later line closes
it. -/
theorem closed_or_unclosed (solid : ∀ body ∈ certificateBodies b.text, '-' ∉ body) :
    ¬ ContainsMarker "-----begin ".toList (behindBlocks b.before) ∨
      ¬ ContainsMarker "-----end ".toList b.rest ∧
        certificateBodies b.text = certificateBodies b.before := by
  by_cases opened : ContainsMarker "-----begin ".toList (behindBlocks b.before)
  · refine .inr ?_
    obtain ⟨left, found⟩ := certificateBodies_append_of_open b.before_ends opened b.rest
    cases closed : splitAt? afterEnd? b.rest with
    | none =>
      rw [closed, List.append_nil] at found
      exact ⟨(splitAt?_marker_eq_none_iff (by decide)).1 closed, found⟩
    | some split =>
      obtain ⟨body, behind⟩ := split
      obtain ⟨after, joined, -, here, -⟩ := splitAt?_eq_some_iff.1 closed
      obtain ⟨line, starts⟩ := b.begins.text_eq_cons rfl
      rw [closed] at found
      -- The BEGIN line would be part of the body.
      cases body with
      | nil =>
        rw [List.nil_append] at joined
        rw [← joined, rest, b.begins.afterEnd?_text] at here
        cases here
      | cons c body =>
        rw [rest, starts, List.cons_append, List.cons_append] at joined
        obtain ⟨rfl, -⟩ := List.cons.inj joined
        have mem : left ++ '-' :: body ∈ certificateBodies b.text := by
          rw [text, found]
          exact List.mem_append_right _ List.mem_cons_self
        exact absurd (List.mem_append_right left List.mem_cons_self) (solid _ mem)
  · exact .inl opened

/-- A block with a plain label is one block of the text. -/
theorem certificateBodies_of_plain (solid : ∀ body ∈ certificateBodies b.text, '-' ∉ body)
    (plain : '-' ∉ b.begins.label) :
    certificateBodies b.text =
      certificateBodies b.before ++ b.inner :: certificateBodies b.behind := by
  rcases b.closed_or_unclosed solid with closed | ⟨unclosed, -⟩
  · rw [text, certificateBodies_append_of_closed closed b.before_ends,
      b.certificateBodies_rest_of_plain plain]
  · refine absurd ?_ unclosed
    refine ⟨b.begins.text ++ b.inner, b.behind, b.ends.toMarker (mt b.hyphen_mem_ends.1 plain), ?_⟩
    simp only [rest, List.append_assoc]
    rfl

/-- A hidden block is no block of the text. -/
theorem certificateBodies_of_hidden (solid : ∀ body ∈ certificateBodies b.text, '-' ∉ body)
    (hidden : b.IsHidden) :
    certificateBodies b.text = certificateBodies b.before ++ certificateBodies b.behind := by
  rcases b.closed_or_unclosed solid with closed | ⟨unclosed, found⟩
  · rw [text, certificateBodies_append_of_closed closed b.before_ends,
      b.certificateBodies_rest_of_hidden hidden]
  · have unclosed' : ¬ ContainsMarker "-----end ".toList b.behind := by
      rintro ⟨before, after, e, joined⟩
      refine unclosed ⟨b.begins.text ++ (b.inner ++ (b.ends.text ++ before)), after, e, ?_⟩
      simp only [rest, joined, List.append_assoc]
    rw [found, certificateBodies_of_no_end unclosed', List.append_nil]

end LabelledBlock
end CredentialRotation.Pem
