import CredentialRotation.Pem.CertificateBlocks

/-!
Private key blocks in a text. A marker's label ends in PRIVATE, blanks and KEY; the body is one run
of Base64 symbols and line breaks that reaches from marker to marker.
-/
namespace CredentialRotation.Pem

/-- PRIVATE, blanks, KEY and five hyphens. -/
def afterPrivateKey? (cs : List Char) : Option (List Char) := do
  let cs ← afterWord? "private".toList cs
  let cs ← afterBlanks? cs
  afterWord? "key-----".toList cs

/-- A character of a body: a Base64 symbol in any letter case, a pad or a line break. -/
def isBodyChar (c : Char) : Bool :=
  let f := folded c
  ('a' ≤ f && f ≤ 'z') || c.isDigit || c == '+' || c == '/' || c == '=' || c == '\r' || c == '\n'

/-- The first place on the line at which a reader succeeds. -/
def firstOnLine? {α : Type} (reader : List Char → Option α) : List Char → Option α
  | [] => reader []
  | c :: cs =>
    match reader (c :: cs) with
    | some a => some a
    | none => if c = '\n' then none else firstOnLine? reader cs

/-- The END marker at the front of a text, up to the first place that completes it. -/
def afterKeyEnd? (cs : List Char) : Option (List Char) := do
  let cs ← afterWord? "-----end".toList cs
  let cs ← afterBlanks? cs
  firstOnLine? afterPrivateKey? cs

/-- The body behind a completed BEGIN marker, and what follows the END marker. -/
def keyBodyAndRest? (cs : List Char) : Option (List Char × List Char) :=
  let body := cs.takeWhile isBodyChar
  if body.isEmpty then none
  else (afterKeyEnd? (cs.drop body.length)).map fun rest => (body, rest)

/-- The block at the front of a text: the shortest label for which all of it completes. -/
def keyBlock? (cs : List Char) : Option (List Char × List Char) := do
  let cs ← afterWord? "-----begin".toList cs
  let cs ← afterBlanks? cs
  firstOnLine? (fun label => do keyBodyAndRest? (← afterPrivateKey? label)) cs

theorem afterBlanks?_length {cs rest : List Char} (h : afterBlanks? cs = some rest) :
    rest.length ≤ cs.length := by
  cases cs with
  | nil => simp [afterBlanks?] at h
  | cons c cs =>
    simp only [afterBlanks?] at h
    split at h
    · rw [← Option.some.inj h]
      exact (List.dropWhile_sublist _).length_le
    · simp at h

theorem firstOnLine?_bound {α : Type} {reader : List Char → Option α} {size : α → Nat}
    (hr : ∀ cs a, reader cs = some a → size a ≤ cs.length) {cs : List Char} {a : α}
    (h : firstOnLine? reader cs = some a) : size a ≤ cs.length := by
  induction cs with
  | nil => exact hr _ _ h
  | cons c cs ih =>
    simp only [firstOnLine?] at h
    split at h
    · rename_i b hb
      rw [← Option.some.inj h]
      exact hr _ _ hb
    · split at h
      · simp at h
      · have := ih h
        simp
        omega

theorem afterPrivateKey?_length {cs rest : List Char} (h : afterPrivateKey? cs = some rest) :
    rest.length ≤ cs.length := by
  simp only [afterPrivateKey?, Option.bind_eq_bind, Option.bind_eq_some_iff] at h
  obtain ⟨a, ha, b, hb, hc⟩ := h
  have ha := afterWord?_length ha
  have hb := afterBlanks?_length hb
  have hc := afterWord?_length hc
  omega

theorem afterKeyEnd?_length {cs rest : List Char} (h : afterKeyEnd? cs = some rest) :
    rest.length ≤ cs.length := by
  simp only [afterKeyEnd?, Option.bind_eq_bind, Option.bind_eq_some_iff] at h
  obtain ⟨a, ha, b, hb, hc⟩ := h
  have ha := afterWord?_length ha
  have hb := afterBlanks?_length hb
  have hc := firstOnLine?_bound (fun _ _ => afterPrivateKey?_length) hc
  omega

theorem keyBodyAndRest?_length {cs : List Char} {found : List Char × List Char}
    (h : keyBodyAndRest? cs = some found) : found.2.length ≤ cs.length := by
  unfold keyBodyAndRest? at h
  dsimp only at h
  split at h
  · exact nomatch h
  · obtain ⟨rest, hrest, rfl⟩ := Option.map_eq_some_iff.1 h
    have hrest := afterKeyEnd?_length hrest
    rw [List.length_drop] at hrest
    dsimp only
    omega

theorem keyBlock?_length {cs : List Char} {found : List Char × List Char}
    (h : keyBlock? cs = some found) : found.2.length < cs.length := by
  simp only [keyBlock?, Option.bind_eq_bind, Option.bind_eq_some_iff] at h
  obtain ⟨a, ha, b, hb, hc⟩ := h
  have ha := afterWord?_length ha
  have hb := afterBlanks?_length hb
  have shorter : ∀ label (found : List Char × List Char),
      ((afterPrivateKey? label).bind fun cs => keyBodyAndRest? cs) = some found →
        found.2.length ≤ label.length := by
    intro label found h
    obtain ⟨d, hd, he⟩ := Option.bind_eq_some_iff.1 h
    exact Nat.le_trans (keyBodyAndRest?_length he) (afterPrivateKey?_length hd)
  have hc := firstOnLine?_bound shorter hc
  have word : 0 < "-----begin".toList.length := by decide
  omega

/-- The bodies of the private key blocks, in order. The search goes on behind each block. -/
def keyBodies (cs : List Char) : List (List Char) :=
  match cs with
  | [] => []
  | c :: cs =>
    match _h : keyBlock? (c :: cs) with
    | some (body, rest) => body :: keyBodies rest
    | none => keyBodies cs
  termination_by cs.length
  decreasing_by
    · exact keyBlock?_length (by assumption)
    · exact Nat.lt_succ_self _

end CredentialRotation.Pem
