import CredentialRotation.Proofs.Credential.HeldSnapshot

/-!
A caller that asks a manager for the key and then for the chain asks its store twice. Each answer
is half of the snapshot that is held then, so that whatever is published in between comes between
the two halves. A caller that asks for the snapshot gets both halves at once.
-/
namespace CredentialRotation

/-- Numbers that a signer takes, with two odd neighbours below those of `neighbours`. -/
def PrivateKey.lowerNeighbours : Rsa.Components :=
  let p := Nat.pow 2 1024 - 131077
  let d := (1 + 21845 * ((p * p - 1) / 2)) / 65537
  { modulus := p * (p + 2)
    publicExponent := 65537
    privateExponent := d
    p := p
    q := p + 2
    exponentP := d % (p - 1)
    exponentQ := d % (p + 1)
    inverseQ := (p + 1) / 2 }

/-- The file of the key with the lower neighbours as its factors. -/
def KeyFile.lowerNeighbours : Moment → KeyFile :=
  .ofComponents PrivateKey.lowerNeighbours
    (PrivateKey.length_encodePkcs8_le (show 256 ≤ 1000000 by decide) (by decide +kernel))
    (by decide +kernel) (by decide +kernel)

namespace SharedStore
variable {ι : Type} [DecidableEq ι]

/-- What was put forward at a store, the earliest first. -/
def putForward (history : List (Served ι)) : List Snapshot :=
  history.filterMap Served.snapshot?

/-- A key and a chain that were published together. -/
def PublishedTogether (history : List (Served ι)) (key : PrivateKey) (chain : Chain) : Prop :=
  ∃ x ∈ putForward history, x.key = key ∧ x.chain = chain

/-- What a caller is given that asks for the key at one state and for the chain at a later one:
halves of the snapshots that were put forward last at these states. -/
structure Halves (before between : List (Served ι)) (s t : SharedStore ι)
    (first second : Snapshot) : Prop where
  latest : (putForward before).getLast? = some first ∧
    (putForward (before ++ between)).getLast? = some second
  /-- The names that are asked for are not looked at. -/
  given : ∀ a b, (IdentityManager.mk s.store).privateKey a = .ok first.key ∧
    (IdentityManager.mk t.store).certificateChain b = .ok second.chain
  /-- The halves belong together if nothing was published in between. -/
  undisturbed : putForward between = [] →
    PublishedTogether (before ++ between) first.key second.chain
  /-- Where no key is published with two chains, they belong together only if the chain is still
  the one that the key was published with. -/
  exactly : (∀ x ∈ putForward (before ++ between), ∀ y ∈ putForward (before ++ between),
      x.key = y.key → x.chain = y.chain) →
    (PublishedTogether (before ++ between) first.key second.chain ↔ first.chain = second.chain)
  /-- Whoever asks for both halves at once is given halves that belong together. -/
  together : (IdentityManager.mk s.store).currentSnapshot = .ok first ∧
    PublishedTogether before first.key first.chain ∧
    (IdentityManager.mk t.store).currentSnapshot = .ok second ∧
    PublishedTogether (before ++ between) second.key second.chain

variable {before between history : List (Served ι)} {s t : SharedStore ι}

omit [DecidableEq ι] in
theorem putForward_append :
    putForward (before ++ between) = putForward before ++ putForward between :=
  List.filterMap_append

omit [DecidableEq ι] in
theorem publishedTogether_of_getLast? {x : Snapshot}
    (latest : (putForward history).getLast? = some x) :
    PublishedTogether history x.key x.chain :=
  ⟨x, List.mem_of_getLast? latest, rfl, rfl⟩

/-- A store that is configured holds what was put forward last. -/
theorem exists_latest {files : ι → IdentityFiles} (run : Run Serves (start files) history s)
    (configured : s.store.snapshot? ≠ none) :
    ∃ x, (putForward history).getLast? = some x ∧ s.store.Describes x := by
  obtain ⟨x, held⟩ := Option.ne_none_iff_exists'.1 configured
  exact ⟨x, (faithful_of_run run).latest.symm.trans held, Store.describes held⟩

/-- A manager is given the key and the chain of two files. -/
def givenPair (k : KeyFile) (c : ChainFile) : Served ι :=
  ⟨.update k.key c.chain, [], .updated (.ok ())⟩

omit [DecidableEq ι] in
theorem snapshot?_givenPair (k : KeyFile) (c : ChainFile) :
    (givenPair k c : Served ι).snapshot? = some (k.pair c) :=
  congrArg Except.toOption (k.make_pair c)

theorem serves_givenPair (s : SharedStore ι) (k : KeyFile) (c : ChainFile) :
    s.Serves (givenPair k c) { s with store := s.store.set (k.pair c) } := by
  refine FileProgram.yields_done_iff.2 ⟨rfl, ?_⟩
  rw [IdentityManager.update_outcome, k.make_pair]
  rfl

/-- Whatever is published between the two requests of a caller, the key is that of the snapshot
held at the first one and the chain that of the snapshot held at the second one. -/
theorem halves_of_separate_reads (files : ι → IdentityFiles)
    (run : Run Serves (start files) before s) (rest : Run Serves s between t)
    (configured : s.store.snapshot? ≠ none) :
    ∃ first second, Halves before between s t first second := by
  obtain ⟨first, latest, describes⟩ := exists_latest run configured
  obtain ⟨second, latestAfter, describesAfter⟩ :=
    exists_latest (Run.append_iff.2 ⟨s, run, rest⟩) (configured_forever configured rest)
  have stays : first ∈ putForward (before ++ between) := by
    rw [putForward_append]
    exact List.mem_append_left _ (List.mem_of_getLast? latest)
  refine ⟨first, second, ⟨latest, latestAfter⟩, ?_, ?_, ?_, ?_⟩
  · intro a b
    exact ⟨(describes.named a).1, (describesAfter.named b).2⟩
  · intro nothing
    have same := latestAfter
    rw [putForward_append, nothing, List.append_nil, latest] at same
    obtain rfl := Option.some.inj same
    exact publishedTogether_of_getLast? latestAfter
  · intro single
    constructor
    · rintro ⟨x, mem, key, chain⟩
      exact (single first stays x mem key.symm).trans chain
    · intro chain
      exact ⟨first, stays, rfl, chain⟩
  · exact ⟨describes.snapshot, publishedTogether_of_getLast? latest, describesAfter.snapshot,
      publishedTogether_of_getLast? latestAfter⟩

/-- A refresher loads an identity, and the caller asks for its halves before and after another
chain is published with the same key. -/
theorem halves_of_separate_reads_reload :
    ∃ (before between : List (Served Unit)) (s t : SharedStore Unit) (first second : Snapshot),
      Run Serves (start fun _ => pemFiles) before s ∧ Run Serves s between t ∧
      s.store.snapshot? ≠ none ∧ Halves before between s t first second := by
  let k := KeyFile.neighbours ⟨1, 0⟩
  let c := ChainFile.least false ⟨1, 0⟩
  let unset : SharedStore Unit := start fun _ => pemFiles
  obtain ⟨answers, loads⟩ := exists_reload unset () k c (by decide) rfl
  have run := Run.cons loads (.nil _)
  let s := unset.afterTick () (some (.reloaded k.modified c.modified (k.pair c)))
  have rest := Run.cons (serves_givenPair s k (.least true ⟨2, 0⟩)) (.nil _)
  obtain ⟨first, second, halves⟩ :=
    halves_of_separate_reads (fun _ : Unit => pemFiles) run rest nofun
  exact ⟨_, _, _, _, first, second, run, rest, nofun, halves⟩

/-- Between the two requests another key is published with another chain. Then the caller holds the
first key with the second chain, which nobody has published. -/
theorem separate_reads_mix_identities :
    let k := KeyFile.neighbours ⟨1, 0⟩
    let c := ChainFile.least false ⟨1, 0⟩
    let k' := KeyFile.lowerNeighbours ⟨2, 0⟩
    let c' := ChainFile.least true ⟨2, 0⟩
    let s : SharedStore Unit := ⟨Store.empty.set (k.pair c), fun _ => .fresh pemFiles⟩
    let t : SharedStore Unit := ⟨s.store.set (k'.pair c'), fun _ => .fresh pemFiles⟩
    Run Serves (start fun _ => pemFiles) [givenPair k c] s ∧ Run Serves s [givenPair k' c'] t ∧
      s.store.snapshot? ≠ none ∧
      (∀ a b, (IdentityManager.mk s.store).privateKey a = .ok k.key ∧
        (IdentityManager.mk t.store).certificateChain b = .ok c'.chain) ∧
      ¬ PublishedTogether [(givenPair k c : Served Unit), givenPair k' c'] k.key c'.chain := by
  intro k c k' c' s t
  refine ⟨.cons (serves_givenPair _ k c) (.nil _), .cons (serves_givenPair _ k' c') (.nil _),
    nofun, fun a b => ⟨rfl, rfl⟩, ?_⟩
  have published : putForward [(givenPair k c : Served Unit), givenPair k' c'] =
      [k.pair c, k'.pair c'] := by
    rw [putForward, List.filterMap_cons_some (snapshot?_givenPair k c),
      List.filterMap_cons_some (snapshot?_givenPair k' c'), List.filterMap_nil]
  rintro ⟨x, mem, key, chain⟩
  rw [published] at mem
  simp only [List.mem_cons, List.not_mem_nil, or_false] at mem
  obtain rfl | rfl := mem
  · have serials : c.chain.serials = c'.chain.serials := congrArg Chain.serials chain
    exact absurd serials (by decide)
  · have moduli : k'.key.components.modulus = k.key.components.modulus :=
      congrArg (fun key => key.components.modulus) key
    exact absurd moduli (by decide +kernel)

end SharedStore
end CredentialRotation
