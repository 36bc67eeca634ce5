import CredentialRotation.Proofs.Credential.Telling
import CredentialRotation.Service.Life

/-!
Whoever asks a store for its identity is told of one and the same snapshot, however many stores,
refreshers and managers there are, and that snapshot can be served.
-/
namespace CredentialRotation

namespace Snapshot
variable {s : Snapshot}

/-- The snapshot came of pairing a key with a chain. -/
def Made (s : Snapshot) : Prop :=
  ∃ key chain, make key chain = .ok s

/-- What a snapshot has to be so that it can be served and told of. -/
structure Intact (s : Snapshot) : Prop where
  leaf : s.chain.certificates[0]? = some s.leaf
  chain : s.certified.chain = s.chain.ders
  signer : s.key.signer = .ok s.certified.signer

/-- Only pairing is left to whoever makes a snapshot; the rest is as it should be. -/
theorem Made.intact (made : s.Made) : s.Intact := by
  obtain ⟨key, chain, pairs⟩ := made
  obtain ⟨signs, nonempty, rfl⟩ := make_eq_ok_iff.1 pairs
  exact ⟨getElem?_zero_certificates _, rfl, if_pos signs⟩

theorem made_of_decode {keyText chainText : Octets}
    (h : (decode keyText chainText).outcome = .ok s) : s.Made := by
  obtain ⟨key, chain, -, -, pairs⟩ := decode_eq_ok_iff.1 h
  exact ⟨key, chain, pairs⟩

theorem made_of_ofAnswers? {answers : List FileAnswer} (h : ofAnswers? answers = some s) :
    s.Made := by
  unfold ofAnswers? at h
  split at h
  next keyText chainText texts => exact made_of_decode (eq_ok_of_toOption h)
  next => cases h

end Snapshot

namespace Store
variable {store : Store} {s : Snapshot}

/-- Everything a store can be asked, by itself or through a manager, describes this snapshot. -/
structure Describes (store : Store) (s : Snapshot) : Prop where
  held : store.snapshot? = some s
  snapshot : (IdentityManager.mk store).currentSnapshot = .ok s
  key : (IdentityManager.mk store).currentKey = .ok s.key
  chain : (IdentityManager.mk store).currentChain = .ok s.chain
  named : ∀ name, (IdentityManager.mk store).privateKey name = .ok s.key ∧
    (IdentityManager.mk store).certificateChain name = .ok s.chain
  certified : store.certified? = some s.certified
  resolved : ∀ role, (IdentityManager.mk store).resolve role = ⟨some s.certified, []⟩
  configured : store.isConfigured = true ∧ (IdentityManager.mk store).hasCertificates = true
  shown : ∃ leaf, s.chain.certificates[0]? = some leaf ∧
    store.shown = Shown.record "CredentialStore" [("configured", Shown.bool true),
      ("leaf_serial", Shown.option Shown.text (some leaf.serialText))] ∧
    ∀ loadedAt, Service.statistics ⟨store⟩ loadedAt =
      .statistics leaf.serialText leaf.subject.text s.chain.size loadedAt

/-- Everything a store can be asked says that there is no identity. -/
structure Unset (store : Store) : Prop where
  held : store.snapshot? = none
  snapshot : (IdentityManager.mk store).currentSnapshot = .error .notConfigured
  key : (IdentityManager.mk store).currentKey = .error .notConfigured
  chain : (IdentityManager.mk store).currentChain = .error .notConfigured
  named : ∀ name, (IdentityManager.mk store).privateKey name = .error .notConfigured ∧
    (IdentityManager.mk store).certificateChain name = .error .notConfigured
  certified : store.certified? = none
  resolved : ∀ role, (IdentityManager.mk store).resolve role = ⟨none, [.identityMissing]⟩
  configured : store.isConfigured = false ∧ (IdentityManager.mk store).hasCertificates = false
  shown : store.shown = Shown.record "CredentialStore" [("configured", Shown.bool false),
    ("leaf_serial", Shown.option Shown.text none)] ∧
    ∀ loadedAt, Service.statistics ⟨store⟩ loadedAt = .noStatistics .notConfigured

theorem describes (held : store.snapshot? = some s) : store.Describes s := by
  obtain ⟨_ | p, numbered⟩ := store
  · cases held
  · obtain rfl := Option.some.inj held
    exact ⟨rfl, rfl, rfl, rfl, fun name => ⟨rfl, rfl⟩, rfl, fun role => rfl, ⟨rfl, rfl⟩,
      p.snapshot.leaf, p.snapshot.getElem?_zero_certificates, rfl, fun loadedAt => rfl⟩

theorem unset (held : store.snapshot? = none) : store.Unset := by
  obtain ⟨_ | p, numbered⟩ := store
  · exact ⟨rfl, rfl, rfl, rfl, fun name => ⟨rfl, rfl⟩, rfl, fun role => rfl, ⟨rfl, rfl⟩, rfl,
      fun loadedAt => rfl⟩
  · cases held

end Store

/-- A snapshot that a request brings with it was made before. -/
def Request.BringsMade {ι : Type} : Request ι → Prop
  | .set s => s.Made
  | .publish p => p.snapshot.Made
  | _ => True

/-- What a request puts forward was made, by the request itself or before. -/
theorem Served.made_of_snapshot? {ι : Type} {r : Served ι} {s : Snapshot}
    (brings : r.request.BringsMade) (holds : r.snapshot? = some s) : s.Made := by
  obtain ⟨request, answers, reply⟩ := r
  cases request with
  | tick i => exact Snapshot.made_of_ofAnswers? holds
  | guardedTick i => exact Snapshot.made_of_ofAnswers? holds
  | updateFromFiles files => exact Snapshot.made_of_ofAnswers? holds
  | update key chain => exact ⟨key, chain, eq_ok_of_toOption holds⟩
  | set s' =>
    obtain rfl := Option.some.inj holds
    exact brings
  | publish p =>
    obtain rfl := Option.some.inj holds
    exact brings

/-- Any number of stores, and the refreshers that work on them, each on any store. -/
structure Stores (κ ι : Type) where
  stores : κ → Store
  watch : ι → WatchState

namespace Stores
variable {κ ι : Type} [DecidableEq κ] [DecidableEq ι]

/-- Nothing was published anywhere, and no refresher has loaded anything. -/
def start (files : ι → IdentityFiles) : Stores κ ι :=
  ⟨fun _ => .empty, fun i => .fresh (files i)⟩

/-- One of the stores, as the refreshers find it. -/
def shared (d : Stores κ ι) (k : κ) : SharedStore ι :=
  ⟨d.stores k, d.watch⟩

/-- A request is served at one of the stores. -/
inductive Step (d : Stores κ ι) : κ × Served ι → Stores κ ι → Prop
  | served (k : κ) {r : Served ι} {t : SharedStore ι} (brings : r.request.BringsMade)
      (serves : (d.shared k).Serves r t) :
    Step d (k, r) ⟨Function.update d.stores k t.store, t.watch⟩

/-- What a request put forward at a store. -/
def putForward? (k : κ) (e : κ × Served ι) : Option Snapshot :=
  if e.1 = k then e.2.snapshot? else none

variable {d t : Stores κ ι} {e : κ × Served ι} {k : κ}

/-- A request changes what its store holds to what it puts forward, if it puts something forward,
and leaves all other stores alone. -/
theorem snapshot?_of_step (step : Step d e t) (k : κ) :
    (t.stores k).snapshot? = (putForward? k e).or (d.stores k).snapshot? := by
  cases step with
  | @served l r t brings serves =>
    have lawful := (SharedStore.consequence_of_serves serves).lawful
    by_cases same : l = k
    · subst same
      simp only [putForward?, if_true, Function.update_self]
      by_cases effect : r.reply.effect = .published
      · obtain ⟨holds, some⟩ := lawful.published effect
        rw [← holds]
        exact (Option.or_of_isSome (Option.isSome_iff_ne_none.2 some)).symm
      · obtain ⟨rfl, nothing⟩ := lawful.kept effect
        rw [nothing]
        rfl
    · simp [putForward?, same, Function.update_of_ne (Ne.symm same)]

theorem published_iff_of_step {r : Served ι} (step : Step d (k, r) t) :
    r.reply.effect = .published ↔ r.snapshot? ≠ none := by
  cases step with
  | served _ brings serves =>
    have lawful := (SharedStore.consequence_of_serves serves).lawful
    constructor
    · intro effect
      obtain ⟨holds, some⟩ := lawful.published effect
      rwa [← holds]
    · intro some
      by_contra effect
      exact some (lawful.kept effect).2

theorem bringsMade_of_step (step : Step d e t) : e.2.request.BringsMade := by
  cases step with
  | served _ brings serves => exact brings

variable {files : ι → IdentityFiles} {history : List (κ × Served ι)}

/-- Each store holds what was last put forward there. -/
theorem latest_of_run (run : Run Step (start files) history d) (k : κ) :
    (d.stores k).snapshot? = (history.filterMap (putForward? k)).getLast? := by
  refine run.holds_of_steps
    (P := fun past u => (u.stores k).snapshot? = (past.filterMap (putForward? k)).getLast?) rfl ?_
  intro past e u v _ latest step
  rw [snapshot?_of_step step, latest, List.filterMap_append, List.getLast?_append]
  cases put : putForward? k e <;> simp [put]

/-- A store is unset for as long as nothing was published there. -/
theorem unset_iff_of_run (run : Run Step (start files) history d) (k : κ) :
    (d.stores k).snapshot? = none ↔
      ∀ r, (k, r) ∈ history → r.reply.effect ≠ .published := by
  rw [latest_of_run run, List.getLast?_eq_none_iff, List.filterMap_eq_nil_iff]
  constructor
  · intro nothing r mem effect
    obtain ⟨u, v, step⟩ := run.step_of_mem mem
    have put := nothing _ mem
    rw [putForward?, if_pos rfl] at put
    exact (published_iff_of_step step).1 effect put
  · rintro unpublished ⟨l, r⟩ mem
    rw [putForward?]
    split
    next same =>
      obtain rfl : l = k := same
      obtain ⟨u, v, step⟩ := run.step_of_mem mem
      by_contra some
      exact unpublished r mem ((published_iff_of_step step).2 some)
    next => rfl

theorem made_of_run (run : Run Step (start files) history d) {s : Snapshot}
    (held : (d.stores k).snapshot? = some s) : s.Made := by
  rw [latest_of_run run] at held
  obtain ⟨⟨l, r⟩, mem, put⟩ := List.mem_filterMap.1 (List.mem_of_getLast? held)
  obtain ⟨u, v, step⟩ := run.step_of_mem mem
  rw [putForward?] at put
  split at put
  next => exact Served.made_of_snapshot? (bringsMade_of_step step) put
  next => cases put

/-- What holds of all stores after a history. -/
structure Agree (history : List (κ × Served ι)) (d : Stores κ ι) : Prop where
  unset : ∀ k, (∀ r, (k, r) ∈ history → r.reply.effect ≠ .published) → (d.stores k).Unset
  held : ∀ k, (∃ r, (k, r) ∈ history ∧ r.reply.effect = .published) →
    ∃ s, (history.filterMap (putForward? k)).getLast? = some s ∧ s.Intact ∧
      (d.stores k).Describes s
  /-- Whatever the next request reports is true of the snapshot that is held then. -/
  told : ∀ k r t events, Step d (k, r) t →
    ((d.shared k).report r.request).Yields r.answers events →
    TellOf events (t.stores k).snapshot?
  /-- So is what is reported of the configured identity, which no store has to hold. -/
  checked : ∀ c fs, TellOf (Service.checkPair c fs).events (Service.checkPair c fs).value

/-- In whatever order requests reach the stores, all that can be asked of a store describes the
snapshot that was put forward there last, or nothing was, and all agree that there is none. -/
theorem readers_agree (files : ι → IdentityFiles) (run : Run Step (start files) history d) :
    Agree history d := by
  refine ⟨?_, ?_, ?_, Service.checkPair_tells⟩
  · intro k unpublished
    exact Store.unset ((unset_iff_of_run run k).2 unpublished)
  · rintro k ⟨r, mem, effect⟩
    have some : (d.stores k).snapshot? ≠ none := by
      intro none
      exact (unset_iff_of_run run k).1 none r mem effect
    obtain ⟨s, held⟩ := Option.ne_none_iff_exists'.1 some
    exact ⟨s, (latest_of_run run k).symm.trans held, (made_of_run run held).intact,
      Store.describes held⟩
  · intro k r t events step reports
    rw [snapshot?_of_step step, putForward?, if_pos rfl]
    exact (SharedStore.tells_of_report reports).or _

/-- Of two stores one is loaded by a refresher, and the other is left unset. -/
theorem readers_agree_two_stores :
    ∃ (history : List (Bool × Served Unit)) (d : Stores Bool Unit),
      Run Step (start fun _ => pemFiles) history d ∧ Agree history d ∧
      (∃ s, s.Intact ∧ (d.stores true).Describes s) ∧ (d.stores false).Unset := by
  let s : Stores Bool Unit := start fun _ => pemFiles
  obtain ⟨answers, serves⟩ := (s.shared true).exists_reload () (.neighbours ⟨1, 0⟩)
    (.least false ⟨1, 0⟩) (by decide) rfl
  have step := Step.served (d := s) (r := ⟨.tick (), answers, .ticked (.ok .reloaded)⟩) true trivial
    serves
  have run := Run.cons step (.nil _)
  have agree := readers_agree _ run
  refine ⟨_, _, run, agree, ?_, ?_⟩
  · obtain ⟨held, -, intact, describes⟩ := agree.held true ⟨_, List.mem_cons_self, rfl⟩
    exact ⟨held, intact, describes⟩
  · refine agree.unset false fun r mem => ?_
    cases List.mem_singleton.1 mem

end Stores
end CredentialRotation
