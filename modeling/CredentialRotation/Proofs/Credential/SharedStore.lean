import CredentialRotation.Proofs.Credential.Ticks
import CredentialRotation.Proofs.Credential.UsableFiles
import CredentialRotation.Proofs.Runs
import Mathlib.Logic.Function.Basic

/-!
One store shared by any number of refreshers and managers. Requests come in any order, and the files
may answer every call differently; the store still holds what the last successful request gave it.
-/
namespace CredentialRotation

theorem FileProgram.run_bind {α β : Type} (fs : FileSystem) (p : FileProgram α)
    (f : α → FileProgram β) : (p.bind f).run fs = (f (p.run fs)).run fs := by
  induction p with
  | done a => rfl
  | modified path next ih => exact ih _
  | read path next ih => exact ih _

/-- Loads a pair once and publishes it, as work over files that may change meanwhile. -/
def IdentityManager.updateProgram (m : IdentityManager) (files : IdentityFiles) :
    FileProgram (Attempt IdentityManager) :=
  (Snapshot.loadProgram files).bind fun loaded => .done do
    let s ← loaded
    ExceptT.lift (m.publish s)

/-- On files that stand still this is the update the manager offers, so that what holds of every
request for `updateProgram` holds of the manager that runs. -/
theorem IdentityManager.run_updateProgram (m : IdentityManager) (fs : FileSystem)
    (files : IdentityFiles) : (m.updateProgram files).run fs = m.updateFromFiles fs files := by
  rw [updateProgram, FileProgram.run_bind]
  rfl

theorem IdentityManager.publishing_outcome (m : IdentityManager) (loaded : Attempt Snapshot) :
    (do let s ← loaded; ExceptT.lift (m.publish s) : Attempt IdentityManager).outcome =
      loaded.outcome.map fun s => ⟨m.store.set s⟩ := by
  rw [Attempt.outcome_bind]
  cases loaded.outcome <;> rfl

theorem IdentityManager.update_outcome (m : IdentityManager) (key : PrivateKey) (chain : Chain) :
    (m.update key chain).outcome = (Snapshot.make key chain).map fun s => ⟨m.store.set s⟩ := by
  unfold update
  cases Snapshot.make key chain <;> rfl

/-- A store, with the watch states of the refreshers that work on it. Managers are views of the
store and have no state of their own. -/
structure SharedStore (ι : Type) where
  store : Store
  watch : ι → WatchState

/-- What a store is asked to do, by whom where it matters. -/
inductive Request (ι : Type)
  | tick (refresher : ι)
  | guardedTick (refresher : ι)
  | update (key : PrivateKey) (chain : Chain)
  | updateFromFiles (files : IdentityFiles)
  | set (s : Snapshot)
  | publish (p : Published)

/-- What the asker gets back. -/
inductive Reply
  | ticked (outcome : Except CredentialFailure TickKind)
  | guarded (outcome : Option TickKind)
  | updated (outcome : Except CredentialFailure Unit)
  | stored

/-- How a request ended: it failed, it found nothing to do, or it published. -/
inductive Effect
  | failed
  | idle
  | published
  deriving DecidableEq

def Effect.ofKind : TickKind → Effect
  | .unchanged => .idle
  | .reloaded => .published

def Reply.effect : Reply → Effect
  | .ticked (.ok kind) | .guarded (some kind) => .ofKind kind
  | .updated (.ok ()) | .stored => .published
  | .ticked (.error _) | .guarded none | .updated (.error _) => .failed

/-- A request as it was served: the answers the files gave meanwhile, and the reply. -/
structure Served (ι : Type) where
  request : Request ι
  answers : List FileAnswer
  reply : Reply

/-- The snapshot that a request, with the texts it read, puts forward. -/
def Served.snapshot? {ι : Type} (r : Served ι) : Option Snapshot :=
  match r.request with
  | .tick _ | .guardedTick _ | .updateFromFiles _ => Snapshot.ofAnswers? r.answers
  | .update key chain => (Snapshot.make key chain).toOption
  | .set s => some s
  | .publish p => some p.snapshot

/-- The refresher that a tick was asked of. -/
def Request.refresher? {ι : Type} : Request ι → Option ι
  | .tick i | .guardedTick i => some i
  | _ => none

namespace SharedStore
variable {ι : Type} [DecidableEq ι]

/-- Nothing was published, and no refresher has loaded anything. -/
def start (files : ι → IdentityFiles) : SharedStore ι :=
  ⟨.empty, fun i => .fresh (files i)⟩

/-- What a tick of one refresher leaves behind; a tick that failed came to nothing. -/
def afterTick (s : SharedStore ι) (i : ι) : Option Tick → SharedStore ι
  | none => s
  | some tick =>
    let r := Refresher.apply ⟨s.watch i, s.store⟩ tick
    ⟨r.store, Function.update s.watch i r.watch⟩

/-- What an update of a manager replies and leaves behind. -/
def afterUpdate (s : SharedStore ι) : Except CredentialFailure IdentityManager →
    Reply × SharedStore ι
  | .ok m => (.updated (.ok ()), { s with store := m.store })
  | .error failure => (.updated (.error failure), s)

/-- Serves a request. -/
def serve (s : SharedStore ι) : Request ι → FileProgram (Reply × SharedStore ι)
  | .tick i => (Tick.program (s.watch i)).bind fun x =>
    .done (.ticked (x.outcome.map Tick.kind), s.afterTick i x.outcome.toOption)
  | .guardedTick i => (Tick.program (s.watch i)).bind fun x =>
    let tick := (Tick.guarded (s.watch i).files x).value
    .done (.guarded (tick.map Tick.kind), s.afterTick i tick)
  | .update key chain =>
    .done (s.afterUpdate ((IdentityManager.mk s.store).update key chain).outcome)
  | .updateFromFiles files => ((IdentityManager.mk s.store).updateProgram files).bind fun x =>
    .done (s.afterUpdate x.outcome)
  | .set snapshot => .done (.stored, { s with store := s.store.set snapshot })
  | .publish p => .done (.stored, { s with store := s.store.publish p })

/-- One step: a request is served, with whatever answers the files gave. -/
def Serves (s : SharedStore ι) (r : Served ι) (t : SharedStore ι) : Prop :=
  (s.serve r.request).Yields r.answers (r.reply, t)

variable {s t : SharedStore ι} {r : Served ι}

/-- What serving a request can lead to. -/
inductive Consequence (s : SharedStore ι) (r : Served ι) : SharedStore ι → Prop
  | failed (effect : r.reply.effect = .failed) (nothing : r.snapshot? = none) : Consequence s r s
  | idle (effect : r.reply.effect = .idle) (nothing : r.snapshot? = none) (i : ι)
      (course : Tick.Course (s.watch i) r.answers (.ok .unchanged)) : Consequence s r s
  | published (effect : r.reply.effect = .published) (asked : r.request.refresher? = none)
      (p : Published) (holds : r.snapshot? = some p.snapshot) (numbered : Nat) :
    Consequence s r { s with store := ⟨some p, numbered⟩ }
  | reloaded (effect : r.reply.effect = .published) (i : ι) (asked : r.request.refresher? = some i)
      (key chain : Moment) (snapshot : Snapshot) (holds : r.snapshot? = some snapshot)
      (course : Tick.Course (s.watch i) r.answers (.ok (.reloaded key chain snapshot))) :
    Consequence s r ⟨s.store.set snapshot,
      Function.update s.watch i ((s.watch i).advance key chain)⟩

theorem afterTick_unchanged (s : SharedStore ι) (i : ι) : s.afterTick i (some .unchanged) = s := by
  obtain ⟨store, watch⟩ := s
  simp [afterTick, Refresher.apply]

private theorem consequence_of_course {i : ι} {outcome : Except CredentialFailure Tick}
    (asked : r.request.refresher? = some i) (holds : r.snapshot? = Snapshot.ofAnswers? r.answers)
    (effect : r.reply.effect =
      (outcome.toOption.map fun tick => Effect.ofKind tick.kind).getD .failed)
    (course : Tick.Course (s.watch i) r.answers outcome) :
    Consequence s r (s.afterTick i outcome.toOption) := by
  rw [course.ofAnswers?] at holds
  cases outcome with
  | error failure => exact .failed effect holds
  | ok tick =>
    cases tick with
    | unchanged =>
      change Consequence s r (s.afterTick i (some .unchanged))
      rw [afterTick_unchanged]
      exact .idle effect holds i course
    | reloaded key chain snapshot =>
      exact .reloaded effect i asked key chain snapshot holds course

private theorem consequence_of_tick {i : ι} {x : Attempt Tick}
    (ticks : (Tick.program (s.watch i)).Yields r.answers x)
    (asked : r.request.refresher? = some i) (holds : r.snapshot? = Snapshot.ofAnswers? r.answers)
    (effect : r.reply.effect =
      (x.outcome.toOption.map fun tick => Effect.ofKind tick.kind).getD .failed) :
    Consequence s r (s.afterTick i x.outcome.toOption) :=
  consequence_of_course asked holds effect (Tick.course_of_yields ticks)

private theorem consequence_of_update {made : Except CredentialFailure Snapshot}
    (asked : r.request.refresher? = none) (holds : r.snapshot? = made.toOption)
    (result : (r.reply, t) = s.afterUpdate (made.map fun snapshot => ⟨s.store.set snapshot⟩)) :
    Consequence s r t := by
  obtain ⟨reply, rfl⟩ := Prod.mk.inj result
  cases made with
  | ok snapshot => exact .published (by rw [reply]; rfl) asked ⟨_, snapshot⟩ holds _
  | error failure => exact .failed (by rw [reply]; rfl) holds

/-- Every request that is served has one of the four consequences. -/
theorem consequence_of_serves (h : s.Serves r t) : Consequence s r t := by
  obtain ⟨request, answers, reply⟩ := r
  cases request with
  | tick i =>
    obtain ⟨x, ticks, result⟩ := FileProgram.yields_bind_done_iff.1 h
    obtain ⟨rfl, rfl⟩ := Prod.mk.inj result
    refine consequence_of_tick ticks rfl rfl ?_
    cases x.outcome <;> rfl
  | guardedTick i =>
    obtain ⟨x, ticks, result⟩ := FileProgram.yields_bind_done_iff.1 h
    obtain ⟨rfl, rfl⟩ := Prod.mk.inj result
    refine consequence_of_tick ticks rfl rfl ?_
    change Reply.effect (.guarded (x.outcome.toOption.map Tick.kind)) = _
    cases x.outcome <;> rfl
  | update key chain =>
    obtain ⟨rfl, result⟩ := FileProgram.yields_done_iff.1 h
    rw [IdentityManager.update_outcome] at result
    exact consequence_of_update rfl rfl result
  | updateFromFiles files =>
    obtain ⟨x, updates, result⟩ := FileProgram.yields_bind_done_iff.1 h
    obtain ⟨loaded, reads, rfl⟩ := FileProgram.yields_bind_done_iff.1 updates
    rw [IdentityManager.publishing_outcome] at result
    exact consequence_of_update rfl (Snapshot.loadCourse_of_yields reads).ofAnswers? result
  | set snapshot =>
    obtain ⟨rfl, result⟩ := FileProgram.yields_done_iff.1 h
    obtain ⟨rfl, rfl⟩ := Prod.mk.inj result
    exact .published rfl rfl ⟨_, snapshot⟩ rfl _
  | publish p =>
    obtain ⟨rfl, result⟩ := FileProgram.yields_done_iff.1 h
    obtain ⟨rfl, rfl⟩ := Prod.mk.inj result
    exact .published rfl rfl p rfl _

/-- What a step may do to the store and to the watch states. -/
structure Lawful (s : SharedStore ι) (r : Served ι) (t : SharedStore ι) : Prop where
  kept : r.reply.effect ≠ .published → t = s ∧ r.snapshot? = none
  idle : r.reply.effect = .idle → ∀ a ∈ r.answers, a.isRead = false
  published : r.reply.effect = .published →
    t.store.snapshot? = r.snapshot? ∧ t.store.snapshot? ≠ none
  unwatched : r.request.refresher? = none → t.watch = s.watch
  /-- A reload publishes what the texts of this very tick hold, and its refresher, but no other,
  takes over the two times that the tick was shown. -/
  reloaded : ∀ i, r.request.refresher? = some i → r.reply.effect = .published →
    ∃ key chain keyText chainText snapshot,
      r.answers = [.modified (s.watch i).files.key (.ok key),
        .modified (s.watch i).files.certificates (.ok chain),
        .read (s.watch i).files.key (.ok keyText),
        .read (s.watch i).files.certificates (.ok chainText)] ∧
      (PrivateKey.decode keyText).outcome = .ok snapshot.key ∧
      (Chain.decode chainText).outcome = .ok snapshot.chain ∧
      t.store = s.store.set snapshot ∧
      t.watch = Function.update s.watch i ((s.watch i).advance key chain)

theorem Consequence.lawful (c : Consequence s r t) : Lawful s r t := by
  cases c with
  | failed effect nothing =>
    refine ⟨fun _ => ⟨rfl, nothing⟩, ?_, ?_, fun _ => rfl, ?_⟩
    · intro h
      cases effect.symm.trans h
    · intro h
      cases effect.symm.trans h
    · intro i _ h
      cases effect.symm.trans h
  | idle effect nothing i course =>
    refine ⟨fun _ => ⟨rfl, nothing⟩, fun _ => course.unchanged.1, ?_, fun _ => rfl, ?_⟩
    · intro h
      cases effect.symm.trans h
    · intro i _ h
      cases effect.symm.trans h
  | published effect asked p holds numbered =>
    refine ⟨fun h => absurd effect h, ?_, fun _ => ⟨holds.symm, nofun⟩, fun _ => rfl, ?_⟩
    · intro h
      cases effect.symm.trans h
    · intro i h
      cases asked.symm.trans h
  | reloaded effect i asked key chain snapshot holds course =>
    refine ⟨fun h => absurd effect h, ?_, fun _ => ⟨holds.symm, nofun⟩, ?_, ?_⟩
    · intro h
      cases effect.symm.trans h
    · intro h
      cases asked.symm.trans h
    · intro j h _
      obtain rfl := Option.some.inj (asked.symm.trans h)
      obtain ⟨keyText, chainText, answers, decodes⟩ := course.reloaded
      obtain ⟨holdsKey, holdsChain⟩ := Snapshot.parts_of_decode decodes
      exact ⟨key, chain, keyText, chainText, snapshot, answers, holdsKey, holdsChain, rfl, rfl⟩

theorem Lawful.keeps_configured (l : Lawful s r t) (configured : s.store.snapshot? ≠ none) :
    t.store.snapshot? ≠ none := by
  by_cases effect : r.reply.effect = .published
  · exact (l.published effect).2
  · rw [(l.kept effect).1]
    exact configured

theorem configured_forever {history : List (Served ι)} (configured : s.store.snapshot? ≠ none)
    (run : Run Serves s history t) : t.store.snapshot? ≠ none := by
  refine run.holds_of_steps (P := fun _ u => u.store.snapshot? ≠ none) configured ?_
  intro past r u v _ holds step
  exact (consequence_of_serves step).lawful.keeps_configured holds

/-- What links the store to the history: it holds what was put forward last, a refresher has times
to compare with only if something was published, and until then every request failed. -/
structure Faithful (history : List (Served ι)) (s : SharedStore ι) : Prop where
  latest : s.store.snapshot? = (history.filterMap Served.snapshot?).getLast?
  watched : ∀ i, (s.watch i).lastKey ≠ none ∨ (s.watch i).lastCertificates ≠ none →
    s.store.snapshot? ≠ none
  unset : s.store.snapshot? = none ↔ ∀ r ∈ history, r.reply.effect = .failed

omit [DecidableEq ι] in
theorem faithful_start (files : ι → IdentityFiles) : Faithful [] (start files) := by
  refine ⟨rfl, ?_, ?_⟩
  · intro i h
    simp [start, WatchState.fresh] at h
  · simp [start, Store.empty, Store.snapshot?]

omit [DecidableEq ι] in
private theorem Faithful.published {past : List (Served ι)} {snapshot : Snapshot}
    (effect : r.reply.effect = .published) (holds : r.snapshot? = some snapshot)
    (stored : t.store.snapshot? = some snapshot) : Faithful (past ++ [r]) t := by
  refine ⟨?_, ?_, ?_⟩
  · simp [stored, holds]
  · simp [stored]
  · simp [stored, effect]

/-- One more request keeps the store faithful to the history. -/
theorem Faithful.step {past : List (Served ι)} (f : Faithful past s) (c : Consequence s r t) :
    Faithful (past ++ [r]) t := by
  cases c with
  | failed effect nothing =>
    refine ⟨?_, f.watched, ?_⟩
    · simpa [nothing] using f.latest
    · simpa [or_imp, forall_and, effect] using f.unset
  | idle effect nothing i course =>
    -- The refresher has loaded before, so the store is no longer unset.
    have configured := f.watched i course.unchanged.2
    refine ⟨?_, f.watched, ?_⟩
    · simpa [nothing] using f.latest
    · simp [configured, effect]
  | published effect asked p holds numbered => exact .published effect holds rfl
  | reloaded effect i asked key chain snapshot holds course => exact .published effect holds rfl

theorem faithful_of_run {files : ι → IdentityFiles} {history : List (Served ι)}
    (run : Run Serves (start files) history s) : Faithful history s := by
  refine run.holds_of_steps (faithful_start files) ?_
  intro past r u v _ f step
  exact f.step (consequence_of_serves step)

/-- However requests and file changes are mixed, the store holds what the last request that had
anything to publish put forward; it is unset as long as every request failed, and never again after
that. No request does more than it may. -/
theorem store_holds_latest (files : ι → IdentityFiles) {history : List (Served ι)}
    (run : Run Serves (start files) history s) :
    s.store.snapshot? = (history.filterMap Served.snapshot?).getLast? ∧
      (s.store.snapshot? = none ↔ ∀ r ∈ history, r.reply.effect = .failed) ∧
      (∀ later t, Run Serves s later t → s.store.snapshot? ≠ none → t.store.snapshot? ≠ none) ∧
      ∀ r t, s.Serves r t → Lawful s r t := by
  have f := faithful_of_run run
  refine ⟨f.latest, f.unset, ?_, ?_⟩
  · intro later t rest configured
    exact configured_forever configured rest
  · intro r t step
    exact (consequence_of_serves step).lawful

/-- On files that stand still a tick is served by one run of its work. -/
theorem serves_tick (s : SharedStore ι) (i : ι) (fs : FileSystem) :
    s.Serves ⟨.tick i, (Tick.program (s.watch i)).answersOf fs,
        .ticked (((Tick.program (s.watch i)).run fs).outcome.map Tick.kind)⟩
      (s.afterTick i ((Tick.program (s.watch i)).run fs).outcome.toOption) := by
  exact FileProgram.yields_bind_done_iff.2 ⟨_, FileProgram.yields_run fs _, rfl⟩

omit [DecidableEq ι] in
/-- Behind an open gate, a tick over a key file and a chain file that stand still loads them. -/
theorem run_standing (s : SharedStore ι) (i : ι) (k : KeyFile) (c : ChainFile)
    (distinct : (s.watch i).files.key ≠ (s.watch i).files.certificates)
    (gate : (s.watch i).bothChanged k.modified c.modified = true) :
    ((Tick.program (s.watch i)).run
        ((s.watch i).files.standing k.toStoredFile c.toStoredFile)).outcome =
      .ok (.reloaded k.modified c.modified (k.pair c)) := by
  rw [Tick.run_program IdentityFiles.modified_standing_key
    (IdentityFiles.modified_standing_of_ne distinct.symm) gate IdentityFiles.read_standing_key
    (IdentityFiles.read_standing_of_ne distinct.symm), Tick.load_outcome, k.decode_pair]
  rfl

/-- A tick over a key file and a chain file that its refresher has not seen publishes them. -/
theorem exists_reload (s : SharedStore ι) (i : ι) (k : KeyFile) (c : ChainFile)
    (distinct : (s.watch i).files.key ≠ (s.watch i).files.certificates)
    (gate : (s.watch i).bothChanged k.modified c.modified = true) :
    ∃ answers, s.Serves ⟨.tick i, answers, .ticked (.ok .reloaded)⟩
      (s.afterTick i (some (.reloaded k.modified c.modified (k.pair c)))) := by
  have serves := serves_tick s i ((s.watch i).files.standing k.toStoredFile c.toStoredFile)
  rw [run_standing s i k c distinct gate] at serves
  exact ⟨_, serves⟩

/-- A single refresher that misses its files at first and finds them later. -/
theorem store_holds_latest_reload :
    ∃ (history : List (Served Unit)) (s : SharedStore Unit),
      Run Serves (start fun _ => pemFiles) history s ∧
      history.map (fun r => r.reply.effect) = [.failed, .published] ∧
      s.store.snapshot? = (history.filterMap Served.snapshot?).getLast? ∧
      s.store.snapshot? ≠ none := by
  have missed := serves_tick (start fun _ : Unit => pemFiles) ()
    ⟨fun _ => .error .notFound, fun _ => .error .notFound⟩
  obtain ⟨answers, found⟩ := exists_reload (start fun _ : Unit => pemFiles) ()
    (.neighbours ⟨1, 0⟩) (.least false ⟨1, 0⟩) (by decide) rfl
  have run := Run.cons missed (.cons found (.nil _))
  obtain ⟨latest, unset, -⟩ := store_holds_latest (fun _ : Unit => pemFiles) run
  refine ⟨_, _, run, rfl, latest, ?_⟩
  intro none
  cases unset.1 none _ (List.mem_cons_of_mem _ List.mem_cons_self)

end SharedStore
end CredentialRotation
