import CredentialRotation.Proofs.Credential.AlikeStores

/-!
What can be told of a key from texts and from the log: its size and that of its document, and
nothing else. Whatever is done with one key or with another of the same sizes, all that is shown and
reported is the same.
-/
namespace CredentialRotation

namespace Service

/-- The files of a configuration differ in nothing but the key. -/
structure AlikeFor (c : Configuration) (fs fs' : FileSystem) : Prop where
  key : KeysAlike (fs.read c.identity.keyPath) (fs'.read c.identity.keyPath)
  chain : ChainsEqual (fs.read c.identity.certificatesPath) (fs'.read c.identity.certificatesPath)
  bundle : ∀ path, c.verification.trustBundlePath = some path →
    ChainsEqual (fs.read path) (fs'.read path)

variable {c : Configuration} {fs fs' : FileSystem}

theorem AlikeFor.checkPair (alike : AlikeFor c fs fs') :
    (checkPair c fs).events = (checkPair c fs').events ∧
      Option.Rel Snapshot.Alike (checkPair c fs).value (checkPair c fs').value := by
  obtain ⟨events, course⟩ := Snapshot.load_alike (identityFiles c) alike.key alike.chain
  refine ⟨?_, course.toOption⟩
  simp only [Service.checkPair, events]
  generalize (Snapshot.load fs (identityFiles c)).outcome = outcome at course ⊢
  generalize (Snapshot.load fs' (identityFiles c)).outcome = outcome' at course ⊢
  cases course with
  | ok snapshots => simp only [snapshots.key.bits, snapshots.leaf, snapshots.chain]
  | error failure => rfl

theorem checkBundle_eq {path : String} (chains : ChainsEqual (fs.read path) (fs'.read path)) :
    checkBundle path fs = checkBundle path fs' := by
  have same : BundleSupplier.ofFile path fs = BundleSupplier.ofFile path fs' := by
    unfold BundleSupplier.ofFile BundleSupplier.ofFileBy
    generalize fs.read path = x at chains ⊢
    generalize fs'.read path = y at chains ⊢
    cases chains with
    | ok chains => simp only [BundleSupplier.ofContents, Chain.decode_eq_of_outcome chains]
    | error cause => rfl
  simp only [checkBundle, same]

theorem AlikeFor.check (alike : AlikeFor c fs fs') : check c fs = check c fs' := by
  obtain ⟨events, values⟩ := alike.checkPair
  unfold Service.check
  generalize Service.checkPair c fs = x at events values ⊢
  generalize Service.checkPair c fs' = y at events values ⊢
  obtain ⟨value, told⟩ := x
  obtain ⟨value', told'⟩ := y
  obtain rfl : told = told' := events
  change Option.Rel Snapshot.Alike value value' at values
  cases values with
  | none => rfl
  | some snapshots =>
    cases bundle : c.verification.trustBundlePath with
    | none => rfl
    | some path =>
      have same := checkBundle_eq (alike.bundle path bundle)
      change Logged.mk (checkBundle path fs).value (told ++ (checkBundle path fs).events) =
        ⟨(checkBundle path fs').value, told ++ (checkBundle path fs').events⟩
      rw [same]

/-- What is shown of a key and of all that holds it, what is answered to requests, and what is
reported meanwhile and by a check, would be the same for any other key of this size that a signer
takes, in a document of the same length. -/
theorem keys_do_not_show {ι : Type} [DecidableEq ι] (files : ι → IdentityFiles) :
    (∀ k l : PrivateKey, k.Alike l → k.shown = l.shown) ∧
    (∀ s t : Snapshot, s.Alike t → ∀ loadedAt, s.shown loadedAt = t.shown loadedAt) ∧
    (∀ (history history' : List (Told ι)) (s s' : SharedStore ι),
      Run SharedStore.Tells (.start files) history s →
      Run SharedStore.Tells (.start files) history' s' →
      List.Forall₂ (fun e e' => Served.Alike files e.served e'.served) history history' →
      history.map Told.seen = history'.map Told.seen ∧ s.SameTexts s') ∧
    ∀ c fs fs', AlikeFor c fs fs' → check c fs = check c fs' := by
  refine ⟨fun k l alike => alike.shown, fun s t alike => alike.shown, ?_,
    fun c fs fs' alike => alike.check⟩
  intro history history' s s' run run' requests
  obtain ⟨alike, seen⟩ := (SharedStore.alike_start files).run run run' requests
  exact ⟨seen, alike.sameTexts⟩

end Service

/-- The same key with its factors the other way round, where one inverse serves both ways. -/
def Rsa.Components.exchanged (k : Rsa.Components) : Rsa.Components :=
  { k with p := k.q, q := k.p, exponentP := k.exponentQ, exponentQ := k.exponentP }

open Der.Strict in
theorem PrivateKey.length_encodePkcs8_exchanged (k : Rsa.Components) :
    (encodePkcs8 k.exchanged).length = (encodePkcs8 k).length := by
  have encoded (tag : UInt8) {content content' : Octets}
      (same : content.length = content'.length) :
      (encode tag content).length = (encode tag content').length := by
    simp only [encode, List.length_cons, List.length_append, same]
  refine encoded _ ?_
  have components : (encodeComponents k.exchanged).length = (encodeComponents k).length := by
    refine encoded _ ?_
    simp only [Rsa.Components.exchanged, List.length_append]
    omega
  simp only [List.length_append, encoded _ components]

namespace PrivateKey

theorem exchanged_short : (encodePkcs8 neighbours.exchanged).length ≤ Der.Strict.longest := by
  rw [length_encodePkcs8_exchanged]
  exact neighbours_short

theorem exchanged_consistent : neighbours.exchanged.Consistent := by
  decide +kernel

theorem exchanged_signable : neighbours.exchanged.Signable := by
  decide +kernel

end PrivateKey

namespace KeyFile

/-- The file of the key with neighbouring factors, exchanged. -/
def exchanged : Moment → KeyFile :=
  .ofComponents PrivateKey.neighbours.exchanged PrivateKey.exchanged_short
    PrivateKey.exchanged_consistent PrivateKey.exchanged_signable

theorem key_neighbours (modified : Moment) : (neighbours modified).key =
    ⟨PrivateKey.encodePkcs8 PrivateKey.neighbours, PrivateKey.neighbours⟩ := rfl

theorem key_exchanged (modified : Moment) : (exchanged modified).key =
    ⟨PrivateKey.encodePkcs8 PrivateKey.neighbours.exchanged, PrivateKey.neighbours.exchanged⟩ := rfl

theorem neighbours_alike (modified : Moment) :
    (neighbours modified).key.Alike (exchanged modified).key := by
  refine ⟨?_, ?_, (neighbours modified).signs.trans (exchanged modified).signs.symm⟩
  · rw [key_neighbours, key_exchanged]
    simp only [PrivateKey.modulusBits, Rsa.Components.exchanged]
  · rw [key_neighbours, key_exchanged]
    exact (PrivateKey.length_encodePkcs8_exchanged _).symm

/-- Key files that were written at the same time, with alike keys, beside the same chain. -/
theorem answersOf_standing {k l : KeyFile} (alike : k.key.Alike l.key) (written : Moment)
    (time : k.modified = written) (time' : l.modified = written) (c : StoredFile) (w : WatchState)
    (distinct : w.files.key ≠ w.files.certificates) :
    List.Forall₂ (FileAnswer.Alike w.files)
      ((Tick.program w).answersOf (w.files.standing k.toStoredFile c))
      ((Tick.program w).answersOf (w.files.standing l.toStoredFile c)) := by
  refine (Tick.program_alike w).answersOf (fun path => ?_) fun path => ?_
  · by_cases key : path = w.files.key
    · rw [key, IdentityFiles.modified_standing_key, IdentityFiles.modified_standing_key, time,
        time']
      exact .modified _ _
    · rw [IdentityFiles.modified_standing_of_ne key, IdentityFiles.modified_standing_of_ne key]
      exact .modified _ _
  · by_cases key : path = w.files.key
    · rw [key, IdentityFiles.read_standing_key, IdentityFiles.read_standing_key]
      exact .read _ (fun _ => .ok (.inr ⟨_, _, k.decodes, l.decodes, alike⟩))
        fun same => absurd same distinct
    · rw [IdentityFiles.read_standing_of_ne key, IdentityFiles.read_standing_of_ne key]
      exact .read _ (fun _ => .ok (.inl rfl)) fun _ => .ok rfl

end KeyFile

/-- One refresher loads the one key, another one the other, and both keys are out of sight. -/
theorem keys_do_not_show_exchanged :
    ∃ (history history' : List (Told Unit)) (s s' : SharedStore Unit),
      Run SharedStore.Tells (.start fun _ => pemFiles) history s ∧
      Run SharedStore.Tells (.start fun _ => pemFiles) history' s' ∧
      List.Forall₂ (fun e e' => Served.Alike (fun _ => pemFiles) e.served e'.served)
        history history' ∧
      history.map Told.seen = history'.map Told.seen ∧ s.SameTexts s' ∧
      (s.store.snapshot?.map fun held => held.key.components) = some PrivateKey.neighbours ∧
      (s'.store.snapshot?.map fun held => held.key.components) =
        some PrivateKey.neighbours.exchanged ∧
      PrivateKey.neighbours ≠ PrivateKey.neighbours.exchanged := by
  let start : SharedStore Unit := .start fun _ => pemFiles
  let c := ChainFile.least false ⟨1, 0⟩
  let beside (k : KeyFile) : FileSystem := pemFiles.standing k.toStoredFile c.toStoredFile
  have run := Run.cons (start.tells_tick () (beside (.neighbours ⟨1, 0⟩))) (.nil _)
  have run' := Run.cons (start.tells_tick () (beside (.exchanged ⟨1, 0⟩))) (.nil _)
  -- Each time is compared with a third one, so that nobody compares the two files octet by octet.
  have reads := KeyFile.answersOf_standing (KeyFile.neighbours_alike ⟨1, 0⟩) ⟨1, 0⟩ rfl rfl
    c.toStoredFile (start.watch ()) (by decide)
  obtain ⟨seen, texts⟩ := (Service.keys_do_not_show fun _ : Unit => pemFiles).2.2.1 _ _ _ _ run run'
    (.cons (.tick () reads) .nil)
  have loads (k : KeyFile) (fresh : k.modified = ⟨1, 0⟩) :
      ((Tick.program (start.watch ())).run (beside k)).outcome =
        .ok (.reloaded k.modified c.modified (k.pair c)) :=
    start.run_standing () k c (by decide) (by rw [fresh]; rfl)
  refine ⟨_, _, _, _, run, run', .cons (.tick () reads) .nil, seen, texts, ?_, ?_,
    by decide +kernel⟩
  · rw [loads _ rfl]
    exact congrArg (fun key => some key.components) (KeyFile.key_neighbours ⟨1, 0⟩)
  · rw [loads _ rfl]
    exact congrArg (fun key => some key.components) (KeyFile.key_exchanged ⟨1, 0⟩)

end CredentialRotation
