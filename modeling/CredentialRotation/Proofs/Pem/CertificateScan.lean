import CredentialRotation.Proofs.Pem.BlockPatterns

/-!
Certificate blocks in three ways: as a scan from marker to marker, as the matches of one pattern,
and as the search that is run. All three find the same bodies in every text.
-/
namespace CredentialRotation.Pem

/-- No marker starts in `before` if `after` follows. -/
def NoMarkerStarts (opening before after : List Char) : Prop :=
  ∀ x y, before = x ++ y → y ≠ [] → ∀ (m : Marker opening) (rest : List Char),
    y ++ after ≠ m.text ++ rest

/-- One forward scan. From the cursor on, the first BEGIN marker is taken, and the body runs from
its end to the first END marker behind it; the cursor moves behind that marker. The scan stops where
either marker is missing. -/
inductive CertificateScan : List Char → List (List Char) → Prop
  | unopened {cs : List Char} (missed : ¬ ContainsMarker "-----begin ".toList cs) :
    CertificateScan cs []
  | unclosed {before inner : List Char} (b : BeginMarker)
    (first : NoMarkerStarts "-----begin ".toList before (b.text ++ inner))
    (missed : ¬ ContainsMarker "-----end ".toList inner) :
    CertificateScan (before ++ (b.text ++ inner)) []
  | block {before body rest : List Char} {found : List (List Char)} (b : BeginMarker)
    (e : EndMarker)
    (first : NoMarkerStarts "-----begin ".toList before (b.text ++ (body ++ (e.text ++ rest))))
    (nearest : NoMarkerStarts "-----end ".toList body (e.text ++ rest))
    (others : CertificateScan rest found) :
    CertificateScan (before ++ (b.text ++ (body ++ (e.text ++ rest)))) (body :: found)

section Splitting
variable {opening cs before rest : List Char}

theorem splitAt?_marker_eq_none_iff (plain : FoldsPlainly opening) :
    splitAt? (afterMarker? opening) cs = none ↔ ¬ ContainsMarker opening cs := by
  refine ⟨?_, splitAt?_of_not_contains plain⟩
  rintro missed ⟨before, after, m, rfl⟩
  have none := splitAt?_eq_none_iff.1 missed before (m.text ++ after) (List.append_assoc _ _ _)
    fun empty => by simp [Marker.text] at empty
  rw [(afterMarker?_eq_some_iff plain).2 ⟨m, rfl⟩] at none
  cases none

/-- A text is split at the first marker that starts in it. -/
theorem splitAt?_marker_eq_some_iff (plain : FoldsPlainly opening) :
    splitAt? (afterMarker? opening) cs = some (before, rest) ↔
      ∃ m : Marker opening, cs = before ++ (m.text ++ rest) ∧
        NoMarkerStarts opening before (m.text ++ rest) := by
  rw [splitAt?_eq_some_iff]
  constructor
  · rintro ⟨after, rfl, -, here, first⟩
    obtain ⟨m, rfl⟩ := (afterMarker?_eq_some_iff plain).1 here
    refine ⟨m, rfl, fun x y joined nonempty m' rest' starts => ?_⟩
    have missed := first x y joined nonempty
    rw [(afterMarker?_eq_some_iff plain).2 ⟨m', starts⟩] at missed
    cases missed
  · rintro ⟨m, rfl, first⟩
    refine ⟨m.text ++ rest, rfl, fun empty => by simp [Marker.text] at empty,
      (afterMarker?_eq_some_iff plain).2 ⟨m, rfl⟩, fun x y joined nonempty => ?_⟩
    cases found : afterMarker? opening (y ++ (m.text ++ rest)) with
    | none => rfl
    | some rest' =>
      obtain ⟨m', starts⟩ := (afterMarker?_eq_some_iff plain).1 found
      exact absurd starts (first x y joined nonempty m' rest')

end Splitting

/-- The scan from marker to marker ends on every text, with the bodies of the search that is run. -/
theorem certificateScan_iff {cs : List Char} {found : List (List Char)} :
    CertificateScan cs found ↔ found = certificateBodies cs := by
  constructor
  · intro h
    induction h with
    | unopened missed => exact (certificateBodies_of_not_contains missed).symm
    | unclosed b first missed =>
      have opened : splitAt? afterBegin? _ = _ :=
        (splitAt?_marker_eq_some_iff (by decide)).2 ⟨b, rfl, first⟩
      have unclosed : splitAt? afterEnd? _ = _ := splitAt?_of_not_contains (by decide) missed
      rw [certificateBodies_eq, opened]
      dsimp only
      rw [unclosed]
    | block b e first nearest others ih =>
      have opened : splitAt? afterBegin? _ = _ :=
        (splitAt?_marker_eq_some_iff (by decide)).2 ⟨b, rfl, first⟩
      have closed : splitAt? afterEnd? _ = _ :=
        (splitAt?_marker_eq_some_iff (by decide)).2 ⟨e, rfl, nearest⟩
      rw [certificateBodies_eq, opened]
      dsimp only
      rw [closed, ih]
  · rintro rfl
    induction size : cs.length using Nat.strongRecOn generalizing cs with
    | _ n ih =>
      rw [certificateBodies_eq]
      cases opened : splitAt? afterBegin? cs with
      | none =>
        exact .unopened ((splitAt?_marker_eq_none_iff (by decide)).1 opened)
      | some found =>
        obtain ⟨before, inner⟩ := found
        have shorter := splitAt?_length (fun _ _ => afterMarker?_length) opened
        obtain ⟨b, rfl, first⟩ := (splitAt?_marker_eq_some_iff (by decide)).1 opened
        dsimp only
        cases closed : splitAt? afterEnd? inner with
        | none =>
          exact .unclosed b first ((splitAt?_marker_eq_none_iff (by decide)).1 closed)
        | some found =>
          obtain ⟨body, rest⟩ := found
          have shorter' := splitAt?_length (fun _ _ => afterMarker?_length) closed
          obtain ⟨e, rfl, nearest⟩ := (splitAt?_marker_eq_some_iff (by decide)).1 closed
          exact .block b e first nearest (ih rest.length (by omega) rfl)

/-- A marker that starts no earlier than another of its kind ends no earlier. -/
theorem Marker.suffix_of_eq_append {opening x after rest : List Char} (m m' : Marker opening)
    (joined : m.text ++ after = x ++ (m'.text ++ rest)) : rest <:+ after := by
  have five : "-----".toList = "----".toList ++ ['-'] := by decide
  refine suffix_of_count_hyphen ?_ (m'.count_hyphen.trans m.count_hyphen.symm) joined
  exact ⟨m.front ++ m.label ++ m.word ++ "----".toList,
    by rw [Marker.text, five, ← List.append_assoc]⟩

/-- A match of the pattern is a BEGIN marker, a body and the first END marker behind it. -/
theorem at_certificatePattern_iff {cs body rest : List Char} :
    certificatePattern.At cs body rest ↔
      ∃ (b : BeginMarker) (e : EndMarker), cs = b.text ++ (body ++ (e.text ++ rest)) ∧
        NoMarkerStarts "-----end ".toList body (e.text ++ rest) := by
  have begins {inner : List Char} :
      afterBegin? cs = some inner ↔ ∃ b : BeginMarker, cs = b.text ++ inner :=
    afterMarker?_eq_some_iff (by decide)
  have ends {inner : List Char} : splitAt? afterEnd? inner = some (body, rest) ↔
      ∃ e : EndMarker, inner = body ++ (e.text ++ rest) ∧
        NoMarkerStarts "-----end ".toList body (e.text ++ rest) :=
    splitAt?_marker_eq_some_iff (by decide)
  rw [CapturePattern.At, match?_certificatePattern, Option.bind_eq_some_iff]
  simp only [begins, ends]
  constructor
  · rintro ⟨_, ⟨b, rfl⟩, e, rfl, nearest⟩
    exact ⟨b, e, rfl, nearest⟩
  · rintro ⟨b, e, rfl, nearest⟩
    exact ⟨_, ⟨b, rfl⟩, e, rfl, nearest⟩

/-- Going from marker to marker passes over no match. Where a BEGIN marker lacks an END marker, so
does every later one. -/
theorem CertificateScan.scan {cs : List Char} {found : List (List Char)}
    (h : CertificateScan cs found) : Scan certificatePattern.At cs found := by
  induction h with
  | unopened missed =>
    refine .stop fun x y joined body rest here => ?_
    obtain ⟨b, e, rfl, -⟩ := at_certificatePattern_iff.1 here
    exact missed ⟨x, _, b, by rw [joined, List.append_assoc]⟩
  | @unclosed before inner b first missed =>
    refine .stop fun x y joined body rest here => ?_
    obtain ⟨b', e, rfl, -⟩ := at_certificatePattern_iff.1 here
    have contained (behind : body ++ (e.text ++ rest) <:+ inner) : False := by
      obtain ⟨z, rfl⟩ := behind
      exact missed ⟨z ++ body, rest, e, by simp only [List.append_assoc]⟩
    rcases List.append_eq_append_iff.1 joined with ⟨z, -, inside⟩ | ⟨z, hz, starts⟩
    · exact contained (b.suffix_of_eq_append b' inside)
    · by_cases nonempty : z = []
      · subst nonempty
        exact contained (b.suffix_of_eq_append b' (x := []) starts.symm)
      · exact first x z hz nonempty b' _ starts.symm
  | block b e first nearest others ih =>
    refine .next (fun x y joined nonempty body' rest' here => ?_)
      (at_certificatePattern_iff.2 ⟨b, e, rfl, nearest⟩) ih
    obtain ⟨b', e', starts, -⟩ := at_certificatePattern_iff.1 here
    exact first x y joined nonempty b' _ starts

/-- The matches of the pattern, taken from left to right, have the bodies of the search that is
run. -/
theorem scan_certificatePattern_iff {cs : List Char} {found : List (List Char)} :
    Scan certificatePattern.At cs found ↔ found = certificateBodies cs := by
  have exists_scan := (certificateScan_iff.2 (rfl : certificateBodies cs = _)).scan
  constructor
  · exact fun h => CapturePattern.scan_unique h exists_scan
  · rintro rfl
    exact exists_scan

end CredentialRotation.Pem
