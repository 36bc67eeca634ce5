import CredentialRotation.Pem.Marker

/-!
Certificate blocks in a text: the bodies between a BEGIN marker and the first END marker after it.
A marker's label is any run without hyphen and line break that ends in CERTIFICATE.
-/
namespace CredentialRotation.Pem

/-- What follows the marker with the given lower-case opening at the front of a text. -/
def afterMarker? (opening : List Char) (cs : List Char) : Option (List Char) := do
  let label ← afterWord? opening cs
  let run := label.takeWhile fun c => c ≠ '-' && c ≠ '\r' && c ≠ '\n'
  let word := "certificate".toList
  if (run.drop (run.length - word.length)).map folded = word then
    afterWord? "-----".toList (label.drop run.length)
  else none

/-- What follows a BEGIN marker. -/
def afterBegin? (cs : List Char) : Option (List Char) :=
  afterMarker? "-----begin ".toList cs

/-- What follows an END marker. -/
def afterEnd? (cs : List Char) : Option (List Char) :=
  afterMarker? "-----end ".toList cs

/-- Splits a text at the first marker: what stands before it, and what follows it. -/
def splitAt? (marker? : List Char → Option (List Char)) :
    List Char → Option (List Char × List Char)
  | [] => none
  | c :: cs =>
    match marker? (c :: cs) with
    | some rest => some ([], rest)
    | none => (splitAt? marker? cs).map fun (before, rest) => (c :: before, rest)

theorem afterMarker?_length {opening cs rest : List Char}
    (h : afterMarker? opening cs = some rest) : rest.length < cs.length := by
  simp only [afterMarker?, Option.bind_eq_bind, Option.bind_eq_some_iff] at h
  obtain ⟨label, h₁, h₂⟩ := h
  have h₁ := afterWord?_length h₁
  split at h₂
  · have h₂ := afterWord?_length h₂
    simp at h₂
    omega
  · simp at h₂

theorem splitAt?_length {marker? : List Char → Option (List Char)}
    (hm : ∀ cs rest, marker? cs = some rest → rest.length < cs.length)
    {cs before rest : List Char} (h : splitAt? marker? cs = some (before, rest)) :
    rest.length < cs.length := by
  induction cs generalizing before with
  | nil => simp [splitAt?] at h
  | cons c cs ih =>
    simp only [splitAt?] at h
    split at h
    · rename_i r hr
      have := hm _ _ hr
      simp_all
    · simp only [Option.map_eq_some_iff, Prod.mk.injEq] at h
      obtain ⟨⟨b, r⟩, h₁, -, rfl⟩ := h
      have : r.length < cs.length := ih h₁
      simp only [List.length_cons]
      omega

/-- The bodies of the certificate blocks, in order. The search goes on behind the END marker of
each block and stops where a marker is missing. -/
def certificateBodies (cs : List Char) : List (List Char) :=
  match h : splitAt? afterBegin? cs with
  | none => []
  | some (_, inner) =>
    match h' : splitAt? afterEnd? inner with
    | none => []
    | some (body, rest) =>
      have : rest.length < cs.length :=
        Nat.lt_trans (splitAt?_length (fun _ _ => afterMarker?_length) h')
          (splitAt?_length (fun _ _ => afterMarker?_length) h)
      body :: certificateBodies rest
  termination_by cs.length

end CredentialRotation.Pem
