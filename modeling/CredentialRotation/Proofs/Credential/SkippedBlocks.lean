import CredentialRotation.Proofs.Credential.BlockFailures
import CredentialRotation.Proofs.Pem.LabelledBlocks

/-!
Which blocks of a text that is read become certificates. A hyphen in the label is enough for a block
to be left out without a word.
-/
namespace CredentialRotation
namespace Chain

/-- What is read as a certificate is Base64, so it has no hyphen. -/
theorem ReadsAs.hyphen_not_mem {body : List Char} {c : Certificate} (h : ReadsAs body c) :
    '-' ∉ body := by
  intro mem
  have written : '-' ∈ squeeze body := List.mem_filter.2 ⟨mem, by decide⟩
  rw [h.1] at written
  exact (Base64.text_plain written).1 rfl

section Blocks
variable {text : Octets} {chain : Chain} {bodies bodies' : List (List Char)}
  {certificates : List Certificate}

theorem hyphen_not_mem_of_decode (success : (decode text).outcome = .ok chain) :
    ∀ body ∈ Pem.certificateBodies (Utf8.decodeLossy text), '-' ∉ body := by
  intro body mem
  obtain ⟨c, reads⟩ := exists_readsAs_iff.1 ⟨_, decode_eq_ok_iff_forall₂.1 success⟩ body mem
  exact reads.hyphen_not_mem

/-- The certificates of all bodies are those of the first and then those of the others. -/
theorem exists_parts_of_append (reads : List.Forall₂ ReadsAs (bodies ++ bodies') certificates) :
    ∃ front back, certificates = front ++ back ∧ List.Forall₂ ReadsAs bodies front ∧
      List.Forall₂ ReadsAs bodies' back :=
  ⟨_, _, (List.take_append_drop bodies.length certificates).symm,
    (List.forall₂_take_append _ _ _ reads.flip).flip,
    (List.forall₂_drop_append _ _ _ reads.flip).flip⟩

theorem decode_encode_eq_ok_iff {cs : List Char} :
    (decode (Utf8.encode cs)).outcome = .ok ⟨certificates⟩ ↔
      List.Forall₂ ReadsAs (Pem.certificateBodies cs) certificates := by
  rw [decode_eq_ok_iff_forall₂, Utf8.decodeLossy_encode]

/-- Where a text is read, each block without a hyphen in its label is read as exactly one
certificate, between those of the text in front and those of the text behind. A block with a hyphen
in its label, but nowhere five in a row, is read as none. -/
theorem labelled_blocks_are_read (b : Pem.LabelledBlock) (written : Utf8.decodeLossy text = b.text)
    (success : (decode text).outcome = .ok chain) :
    ('-' ∉ b.begins.label → ∃ front c back, chain.certificates = front ++ c :: back ∧
      ReadsAs b.inner c ∧
      (decode (Utf8.encode b.before)).outcome = .ok ⟨front⟩ ∧
      (decode (Utf8.encode b.behind)).outcome = .ok ⟨back⟩) ∧
    ('-' ∈ b.begins.label → ¬ "-----".toList <:+: b.begins.label →
      ∃ front back, chain.certificates = front ++ back ∧
        (decode (Utf8.encode b.before)).outcome = .ok ⟨front⟩ ∧
        (decode (Utf8.encode b.behind)).outcome = .ok ⟨back⟩) := by
  have solid := hyphen_not_mem_of_decode success
  have reads := decode_eq_ok_iff_forall₂.1 success
  rw [written] at solid reads
  constructor
  · intro plain
    rw [b.certificateBodies_of_plain solid plain] at reads
    obtain ⟨front, _, same, before, _ | ⟨here, behind⟩⟩ := exists_parts_of_append reads
    exact ⟨front, _, _, same, here, decode_encode_eq_ok_iff.2 before,
      decode_encode_eq_ok_iff.2 behind⟩
  · intro hyphen apart
    rw [b.certificateBodies_of_hidden solid (b.isHidden hyphen apart)] at reads
    obtain ⟨front, back, same, before, behind⟩ := exists_parts_of_append reads
    exact ⟨front, back, same, decode_encode_eq_ok_iff.2 before,
      decode_encode_eq_ok_iff.2 behind⟩

end Blocks

/-- The Base64 of octets on lines of its own. -/
def linesOf (der : Octets) : List Char :=
  '\n' :: (Base64.text der ++ ['\n'])

theorem hyphen_not_mem_linesOf (der : Octets) : '-' ∉ linesOf der := by
  simp only [linesOf, List.mem_cons, List.mem_append, List.not_mem_nil, or_false]
  rintro (feed | written | feed)
  · cases feed
  · exact (Base64.text_plain written).1 rfl
  · cases feed

theorem readsAs_linesOf {der : Octets} {c : Certificate}
    (accepted : Certificate.ofDer? der = some c) : ReadsAs (linesOf der) c := by
  obtain rfl := Certificate.der_of_ofDer? accepted
  refine ⟨?_, accepted⟩
  have solid : (Base64.text c.der).filter (fun d => !isAsciiBlank d) = Base64.text c.der :=
    List.filter_eq_self.2 fun d mem => by rw [(Base64.text_plain mem).2]; rfl
  rw [squeeze, linesOf, List.filter_cons_of_neg (by decide), List.filter_append, solid,
    List.filter_cons_of_neg (by decide), List.filter_nil, List.append_nil]

/-- A block with this label, its marker lines in capitals. -/
def labelled (label : List Char) (inLine : ∀ c ∈ label, Pem.isLineBreak c = false) (der : Octets)
    (before : List Char) (before_ends : Pem.EndsLine before) (behind : List Char)
    (behind_starts : Pem.StartsBreak behind) : Pem.LabelledBlock where
  before := before
  begins := { Pem.bareBegin.toLineMarker with label := label, label_inLine := inLine }
  inner := linesOf der
  ends := { Pem.bareEnd.toLineMarker with label := label, label_inLine := inLine }
  behind := behind
  before_ends := before_ends
  inner_nonempty := List.cons_ne_nil _ _
  inner_starts := .feed _
  inner_ends := .of_feed (.inr (List.getLast?_concat (l := '\n' :: Base64.text der)))
  behind_starts := behind_starts
  same_label := rfl
  no_begin h := hyphen_not_mem_linesOf der (Pem.LineMarker.hyphen_mem_of_contains rfl h)
  no_end h := hyphen_not_mem_linesOf der (Pem.LineMarker.hyphen_mem_of_contains rfl h)

/-- A label with a hyphen. -/
def hyphenLabel : List Char :=
  "X-509 ".toList

theorem inLine_label : ∀ c ∈ hyphenLabel, Pem.isLineBreak c = false := by
  have all : hyphenLabel.all (!Pem.isLineBreak ·) = true := rfl
  intro c mem
  simpa using List.all_eq_true.1 all c mem

theorem hyphen_mem_label : '-' ∈ hyphenLabel := by decide

theorem hyphens_apart_label : ¬ "-----".toList <:+: hyphenLabel := by decide

/-- Nothing but a block with this label. -/
def hyphenated (der : Octets) : Pem.LabelledBlock :=
  labelled hyphenLabel inLine_label der [] .nil ['\n'] (.feed [])

/-- A block without a label, and behind it one with the label. -/
def mixed (der der' : Octets) : Pem.LabelledBlock :=
  labelled [] nofun der [] .nil ('\n' :: (hyphenated der').rest) (.feed _)

/-- The same text, seen from the second block. -/
def mixed' (der der' : Octets) : Pem.LabelledBlock :=
  let first := mixed der der'
  labelled hyphenLabel inLine_label der'
    (first.begins.text ++ (first.inner ++ (first.ends.text ++ ['\n'])))
    (.of_feed (.inr (by simp only [← List.append_assoc, List.getLast?_concat]))) ['\n'] (.feed [])

theorem text_mixed (der der' : Octets) : (mixed der der').text = (mixed' der der').text := by
  simp only [mixed', Pem.LabelledBlock.text, Pem.LabelledBlock.rest, mixed, hyphenated, labelled,
    List.nil_append, List.append_assoc, List.singleton_append]

section Mixed
variable (der der' : Octets)

theorem isHidden_hyphenated : (hyphenated der).IsHidden :=
  (hyphenated der).isHidden hyphen_mem_label hyphens_apart_label

theorem certificateBodies_feed (cs : List Char) :
    Pem.certificateBodies ('\n' :: cs) = Pem.certificateBodies cs :=
  Pem.certificateBodies_append_of_free (Pem.not_containsMarker_break rfl rfl)
    (.of_feed (.inr rfl)) cs

theorem certificateBodies_hyphenated : Pem.certificateBodies (hyphenated der).rest = [] := by
  rw [(hyphenated der).certificateBodies_rest_of_hidden (isHidden_hyphenated der)]
  exact Pem.certificateBodies_of_not_contains (Pem.not_containsMarker_break rfl rfl)

theorem decode_hyphenated :
    (decode (Utf8.encode (hyphenated der).text)).outcome = .ok ⟨[]⟩ := by
  rw [decode_encode_eq_ok_iff, show (hyphenated der).text = (hyphenated der).rest from rfl,
    certificateBodies_hyphenated]
  exact .nil

theorem decode_mixed {c : Certificate} (accepted : Certificate.ofDer? der = some c) :
    (decode (Utf8.encode (mixed der der').text)).outcome = .ok ⟨[c]⟩ := by
  have behind : Pem.certificateBodies (mixed der der').behind = [] := by
    rw [show (mixed der der').behind = '\n' :: (hyphenated der').rest from rfl,
      certificateBodies_feed, certificateBodies_hyphenated]
  rw [decode_encode_eq_ok_iff, show (mixed der der').text = (mixed der der').rest from rfl,
    (mixed der der').certificateBodies_rest_of_plain List.not_mem_nil, behind]
  exact .cons (readsAs_linesOf accepted) .nil

end Mixed

/-- Of two certificates, the first is read and the second, with its hyphen, is not. -/
theorem labelled_blocks_are_read_mixed :
    let first := mixed (Certificate.leastDer 1) (Certificate.leastDer 2)
    let second := mixed' (Certificate.leastDer 1) (Certificate.leastDer 2)
    let text := Utf8.encode first.text
    Utf8.decodeLossy text = first.text ∧ Utf8.decodeLossy text = second.text ∧
      (decode text).outcome = .ok ⟨[.least 1]⟩ ∧
      '-' ∉ first.begins.label ∧
      (∃ front c back, [Certificate.least 1] = front ++ c :: back ∧ ReadsAs first.inner c ∧
        (decode (Utf8.encode first.before)).outcome = .ok ⟨front⟩ ∧
        (decode (Utf8.encode first.behind)).outcome = .ok ⟨back⟩) ∧
      '-' ∈ second.begins.label ∧ ¬ "-----".toList <:+: second.begins.label ∧
      ∃ front back, [Certificate.least 1] = front ++ back ∧
        (decode (Utf8.encode second.before)).outcome = .ok ⟨front⟩ ∧
        (decode (Utf8.encode second.behind)).outcome = .ok ⟨back⟩ := by
  intro first second text
  have written : Utf8.decodeLossy text = first.text := Utf8.decodeLossy_encode _
  have written' : Utf8.decodeLossy text = second.text := written.trans (text_mixed _ _)
  have success : (decode text).outcome = .ok ⟨[.least 1]⟩ :=
    decode_mixed _ _ (Certificate.ofDer?_leastDer 1 (by decide))
  have plain : '-' ∉ first.begins.label := List.not_mem_nil
  have hyphen : '-' ∈ second.begins.label := hyphen_mem_label
  have apart : ¬ "-----".toList <:+: second.begins.label := hyphens_apart_label
  exact ⟨written, written', success,
    plain, (labelled_blocks_are_read first written success).1 plain,
    hyphen, apart, (labelled_blocks_are_read second written' success).2 hyphen apart⟩

/-- So not every block of a text that is read becomes a certificate, though its body is one. -/
theorem hyphenated_label_is_skipped :
    ReadsAs (hyphenated (Certificate.leastDer 1)).inner (.least 1) ∧
    ¬ ∀ (text : Octets) (chain : Chain) (b : Pem.LabelledBlock),
      Utf8.decodeLossy text = b.text → (decode text).outcome = .ok chain →
        ∃ front c back, chain.certificates = front ++ c :: back ∧ ReadsAs b.inner c := by
  refine ⟨readsAs_linesOf (Certificate.ofDer?_leastDer 1 (by decide)), fun all => ?_⟩
  obtain ⟨front, c, back, same, -⟩ := all _ _ (hyphenated (Certificate.leastDer 1))
    (Utf8.decodeLossy_encode _) (decode_hyphenated _)
  exact List.append_ne_nil_of_right_ne_nil front (List.cons_ne_nil c back) same.symm

end Chain
end CredentialRotation
