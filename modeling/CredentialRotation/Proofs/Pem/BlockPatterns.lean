import CredentialRotation.Proofs.Pattern.Search
import CredentialRotation.Proofs.Pem.CertificateBlocks
import CredentialRotation.Proofs.Pem.KeyBlocks

/-!
The two patterns of blocks. Each is written as pieces that are tried in order, and the readers that
are run come to the match that is tried first.
-/
namespace CredentialRotation.Pem

/-- The pattern of a lower-case word, in any letter case. -/
def word (w : List Char) : List Piece :=
  w.map fun x => .one fun c => folded c = x

/-- The pattern of a certificate marker with the given lower-case opening. -/
def markerPieces (opening : List Char) : List Piece :=
  word opening ++ ([.many isLabelChar .longest] ++ word "certificate-----".toList)

/-- `-----BEGIN [^\r\n-]*CERTIFICATE-----(.*?)-----END [^\r\n-]*CERTIFICATE-----` in any letter
case, where the dot is any character. -/
def certificatePattern : CapturePattern where
  before := markerPieces "-----begin ".toList
  captured := [.many (fun _ => true) .shortest]
  behind := markerPieces "-----end ".toList

section Pieces
variable {α : Type} {opening cs : List Char}

theorem first?_word (w : List Char) (next : List Char → Option α) (cs : List Char) :
    Piece.first? (word w) (fun _ => next) cs = (afterWord? w cs).bind next := by
  induction w generalizing cs with
  | nil => simp [word, afterWord?]
  | cons x w ih =>
    cases cs with
    | nil => exact Piece.first?_one_nil _
    | cons c cs =>
      rw [word, List.map_cons, Piece.first?_one_cons, afterWord?, ← word, ih]
      by_cases same : folded c = x <;> simp [same]

/-- What stands behind the opening of a marker: a label, and CERTIFICATE with five hyphens. -/
private theorem afterMarker?_eq_some_iff_parts (plain : FoldsPlainly opening) {left : List Char} :
    afterMarker? opening cs = some left ↔
      ∃ tail, afterWord? opening cs = some tail ∧ ∃ label rest, tail = label ++ rest ∧
        (∀ c ∈ label, isLabelChar c = true) ∧
        afterWord? "certificate-----".toList rest = some left := by
  have closePlain : FoldsPlainly "certificate-----".toList := by decide
  simp only [afterMarker?_eq_some_iff plain, afterWord?_eq_some_iff_spells plain,
    afterWord?_eq_some_iff_spells closePlain]
  constructor
  · rintro ⟨m, rfl⟩
    refine ⟨m.label ++ (m.word ++ "-----".toList ++ left), ⟨m.front, m.front_spells, ?_⟩, m.label,
      _, rfl, m.label_plain, m.word ++ "-----".toList, ?_, rfl⟩
    · simp only [Marker.text, List.append_assoc]
    · exact (List.map_append).trans (congrArg (· ++ "-----".toList) m.word_spells)
  · rintro ⟨_, ⟨front, opened, rfl⟩, label, _, rfl, label_plain, close, spelled, rfl⟩
    have parts : Spells ("certificate".toList ++ "-----".toList) close := spelled
    obtain ⟨name, hyphens, rfl, nameSpells, hyphenSpells⟩ := List.map_eq_append_iff.1 parts
    have five : Spells "-----".toList hyphens := hyphenSpells
    refine ⟨⟨front, label, name, opened, label_plain, nameSpells⟩, ?_⟩
    rw [Marker.text, five.eq_of_no_letter (by decide)]
    simp only [List.append_assoc]

/-- The pattern of a marker is matched in one way at most, namely by the marker. -/
theorem first?_markerPieces (plain : FoldsPlainly opening) (next : List Char → Option α) :
    Piece.first? (markerPieces opening) (fun _ => next) cs =
      (afterMarker? opening cs).bind next := by
  simp only [markerPieces, Piece.first?_append, first?_word]
  ext a
  have labels {tail : List Char} (opened : afterWord? opening cs = some tail) :
      Piece.first? [.many isLabelChar .longest]
        (fun _ rest => (afterWord? "certificate-----".toList rest).bind next) tail = some a ↔
      ∃ label rest, tail = label ++ rest ∧ (∀ c ∈ label, isLabelChar c = true) ∧
        (afterWord? "certificate-----".toList rest).bind next = some a := by
    apply Piece.first?_many_eq_some_iff
    intro label rest label' rest' b joined inside found joined' inside' found'
    obtain ⟨left, closed, found⟩ := Option.bind_eq_some_iff.1 found
    obtain ⟨left', closed', found'⟩ := Option.bind_eq_some_iff.1 found'
    have here := (afterMarker?_eq_some_iff_parts plain).2
      ⟨tail, opened, label, rest, joined, inside, closed⟩
    have here' := (afterMarker?_eq_some_iff_parts plain).2
      ⟨tail, opened, label', rest', joined', inside', closed'⟩
    obtain rfl := Option.some.inj (here.symm.trans here')
    exact Option.some.inj (found.symm.trans found')
  simp only [Option.bind_eq_some_iff, afterMarker?_eq_some_iff_parts plain]
  constructor
  · rintro ⟨tail, opened, found⟩
    obtain ⟨label, rest, joined, inside, found⟩ := (labels opened).1 found
    obtain ⟨left, closed, found⟩ := Option.bind_eq_some_iff.1 found
    exact ⟨left, ⟨tail, opened, label, rest, joined, inside, closed⟩, found⟩
  · rintro ⟨left, ⟨tail, opened, label, rest, joined, inside, closed⟩, found⟩
    refine ⟨tail, opened, (labels opened).2 ⟨label, rest, joined, inside, ?_⟩⟩
    rw [closed, Option.bind_some, found]

/-- The shortest run of any characters up to a marker is what stands before the first marker. -/
theorem first?_upTo {marker? : List Char → Option (List Char)} (atEnd : marker? [] = none)
    (cs : List Char) :
    Piece.first? [.many (fun _ => true) .shortest]
        (fun body left => (marker? left).map fun rest => (body, rest)) cs =
      splitAt? marker? cs := by
  have behind (before : List Char) :
      Piece.first? [.many (fun _ => true) .shortest]
          (fun body left => (marker? left).map fun rest => (before ++ body, rest)) cs =
        (splitAt? marker? cs).map fun found => (before ++ found.1, found.2) := by
    induction cs generalizing before with
    | nil => simp [Piece.first?_cons, Piece.takes, Piece.runs, splitAt?, atEnd]
    | cons c cs ih =>
      have later := ih (before ++ [c])
      simp only [List.append_assoc, List.singleton_append] at later
      rw [Piece.first?_shortest_cons, if_pos rfl, later, splitAt?]
      cases marker? (c :: cs) with
      | some rest => rfl
      | none =>
        cases splitAt? marker? cs <;> rfl
  have whole := behind []
  simp only [List.nil_append] at whole
  rw [whole]
  cases splitAt? marker? cs <;> rfl

end Pieces

/-- A block at the front of a text: a BEGIN marker and what stands behind it up to the first END
marker. -/
theorem match?_certificatePattern (cs : List Char) :
    certificatePattern.match? cs = (afterBegin? cs).bind (splitAt? afterEnd?) := by
  have closes (body : List Char) :
      Piece.first? (markerPieces "-----end ".toList) (fun _ rest => some (body, rest)) =
        fun left => (afterEnd? left).map fun rest => (body, rest) := by
    funext left
    rw [first?_markerPieces (by decide)]
    exact Option.map_eq_bind.symm
  have upTo : Piece.first? [.many (fun _ => true) .shortest]
      (fun body left => (afterEnd? left).map fun rest => (body, rest)) = splitAt? afterEnd? :=
    funext (first?_upTo rfl)
  simp only [CapturePattern.match?_eq, certificatePattern, closes, upTo]
  rw [first?_markerPieces (by decide)]
  rfl

/-- The pattern of at least one blank. -/
def blankPieces : List Piece :=
  [.one isBlank, .many isBlank .longest]

/-- The pattern of PRIVATE, blanks, KEY and five hyphens. -/
def privateKeyPieces : List Piece :=
  word "private".toList ++ (blankPieces ++ word "key-----".toList)

/-- The pattern of a private key marker with the given lower-case opening. -/
def keyMarkerPieces (opening : List Char) : List Piece :=
  word opening ++ (blankPieces ++ ([.many (fun c => c ≠ '\n') .shortest] ++ privateKeyPieces))

/-- `-----BEGIN\s+.*?PRIVATE\s+KEY-----([a-z0-9+/=\r\n]+)-----END\s+.*?PRIVATE\s+KEY-----` in any
letter case, where the dot is any character but a line feed. -/
def keyPattern : CapturePattern where
  before := keyMarkerPieces "-----begin".toList
  captured := [.one isBodyChar, .many isBodyChar .longest]
  behind := keyMarkerPieces "-----end".toList

/-- The search for a private key marker: its opening, all blanks behind it, and the first place on
the line with the two words and what is sought behind them. -/
def keyMarkerThen? {α : Type} (opening : List Char) (next : List Char → Option α)
    (cs : List Char) : Option α :=
  (afterWord? opening cs).bind fun left => (afterBlanks? left).bind
    (firstOnLine? fun label => (afterPrivateKey? label).bind next)

section Pieces
variable {α : Type} {next : List Char → Option α}

/-- Where nothing starts with a blank, all blanks are taken. -/
theorem first?_blankPieces
    (solid : ∀ c cs, isBlank c = true → next cs = none → next (c :: cs) = none) (cs : List Char) :
    Piece.first? blankPieces (fun _ => next) cs = (afterBlanks? cs).bind next := by
  cases cs with
  | nil => exact Piece.first?_one_nil _
  | cons c cs =>
    rw [blankPieces, Piece.first?_one_cons, afterBlanks?]
    split
    · rename_i blank
      rw [Piece.first?_longest fun _ => solid, Option.bind_some,
        List.dropWhile_cons_of_pos blank]
    · rfl

theorem first?_privateKeyPieces (cs : List Char) :
    Piece.first? privateKeyPieces (fun _ => next) cs = (afterPrivateKey? cs).bind next := by
  have solid (c : Char) (cs : List Char) (blank : isBlank c = true)
      (_ : (afterWord? "key-----".toList cs).bind next = none) :
      (afterWord? "key-----".toList (c :: cs)).bind next = none := by
    have other : folded c ≠ 'k' := folded_ne_of_isBlank blank (by decide)
    rw [show afterWord? "key-----".toList (c :: cs) = none from if_neg other]
    rfl
  simp only [privateKeyPieces, Piece.first?_append, first?_word, first?_blankPieces solid,
    afterPrivateKey?, Option.bind_eq_bind, Option.bind_assoc]

/-- The shortest run within a line ends at the first place on it where something is found. -/
theorem first?_line (reader : List Char → Option α) (cs : List Char) :
    Piece.first? [.many (fun c => c ≠ '\n') .shortest] (fun _ => reader) cs =
      firstOnLine? reader cs := by
  induction cs with
  | nil => simp [Piece.first?_cons, Piece.takes, Piece.runs, firstOnLine?]
  | cons c cs ih =>
    rw [Piece.first?_shortest_cons, firstOnLine?, ih]
    cases reader (c :: cs) with
    | some a => rfl
    | none =>
      by_cases feed : c = '\n' <;> simp [feed]

theorem first?_keyMarkerPieces (opening cs : List Char) :
    Piece.first? (keyMarkerPieces opening) (fun _ => next) cs = keyMarkerThen? opening next cs := by
  have solid (c : Char) (cs : List Char) (blank : isBlank c = true)
      (missed : firstOnLine? (fun label => (afterPrivateKey? label).bind next) cs = none) :
      firstOnLine? (fun label => (afterPrivateKey? label).bind next) (c :: cs) = none := by
    have other : folded c ≠ 'p' := folded_ne_of_isBlank blank (by decide)
    rw [firstOnLine?, afterPrivateKey?_cons_of_ne other, missed]
    exact ite_self none
  simp only [keyMarkerPieces, Piece.first?_append, first?_word, first?_privateKeyPieces,
    first?_line, first?_blankPieces solid, keyMarkerThen?]

end Pieces

theorem keyBlock?_eq (cs : List Char) :
    keyBlock? cs = keyMarkerThen? "-----begin".toList keyBodyAndRest? cs := rfl

theorem afterKeyEnd?_eq (cs : List Char) :
    afterKeyEnd? cs = keyMarkerThen? "-----end".toList some cs := by
  simp only [keyMarkerThen?, Option.bind_fun_some]
  rfl

section Mapping
variable {α β : Type} (f : α → β)

theorem firstOnLine?_map (reader : List Char → Option α) (cs : List Char) :
    firstOnLine? (fun label => (reader label).map f) cs = (firstOnLine? reader cs).map f := by
  induction cs with
  | nil => rfl
  | cons c cs ih =>
    rw [firstOnLine?, firstOnLine?, ih]
    cases reader (c :: cs) with
    | some a => rfl
    | none => by_cases feed : c = '\n' <;> simp [feed]

theorem keyMarkerThen?_map (opening : List Char) (next : List Char → Option α) (cs : List Char) :
    keyMarkerThen? opening (fun rest => (next rest).map f) cs =
      (keyMarkerThen? opening next cs).map f := by
  simp only [keyMarkerThen?, Option.map_bind, Function.comp_def, ← firstOnLine?_map]

end Mapping

/-- An END marker starts with none of the characters of a body. -/
private theorem afterKeyEnd?_cons_of_isBodyChar {c : Char} (inside : isBodyChar c = true)
    (cs : List Char) : afterKeyEnd? (c :: cs) = none := by
  have other : folded c ≠ '-' := by
    intro folds
    rw [folded_eq_hyphen_iff.1 folds] at inside
    cases inside
  rw [afterKeyEnd?, show afterWord? "-----end".toList (c :: cs) = none from if_neg other]
  rfl

/-- A body is all that can be one, for nothing follows a shorter one. -/
theorem first?_body (cs : List Char) :
    Piece.first? [.one isBodyChar, .many isBodyChar .longest]
        (fun body left => (afterKeyEnd? left).map fun rest => (body, rest)) cs =
      keyBodyAndRest? cs := by
  cases cs with
  | nil => exact Piece.first?_one_nil _
  | cons c cs =>
    rw [Piece.first?_one_cons, keyBodyAndRest?]
    by_cases inside : isBodyChar c = true
    · have missed (taken : List Char) (d : Char) (rest : List Char)
          (insideRun : isBodyChar d = true)
          (_ : (afterKeyEnd? rest).map (fun rest => (c :: (taken ++ [d]), rest)) = none) :
          (afterKeyEnd? (d :: rest)).map (fun rest => (c :: taken, rest)) = none := by
        rw [afterKeyEnd?_cons_of_isBodyChar insideRun]
        rfl
      have run : cs.drop (cs.takeWhile isBodyChar).length = cs.dropWhile isBodyChar :=
        List.append_cancel_left ((List.prefix_iff_eq_append.1
          (List.takeWhile_prefix isBodyChar)).trans List.takeWhile_append_dropWhile.symm)
      rw [if_pos inside, Piece.first?_longest missed, List.takeWhile_cons_of_pos inside,
        List.length_cons, List.drop_succ_cons, run]
      rfl
    · rw [if_neg inside, List.takeWhile_cons_of_neg inside]
      rfl

/-- A block at the front of a text. -/
theorem match?_keyPattern (cs : List Char) : keyPattern.match? cs = keyBlock? cs := by
  have closes (body : List Char) :
      Piece.first? (keyMarkerPieces "-----end".toList) (fun _ rest => some (body, rest)) =
        fun left => (afterKeyEnd? left).map fun rest => (body, rest) := by
    funext left
    rw [first?_keyMarkerPieces, afterKeyEnd?_eq, ← keyMarkerThen?_map]
    rfl
  have bodies : Piece.first? [.one isBodyChar, .many isBodyChar .longest]
      (fun body left => (afterKeyEnd? left).map fun rest => (body, rest)) = keyBodyAndRest? :=
    funext first?_body
  simp only [CapturePattern.match?_eq, keyPattern, closes, bodies]
  rw [first?_keyMarkerPieces, keyBlock?_eq]

end CredentialRotation.Pem
