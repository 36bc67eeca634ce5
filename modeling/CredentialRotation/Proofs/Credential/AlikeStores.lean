import CredentialRotation.Proofs.Credential.AlikeKeys
import CredentialRotation.Proofs.Credential.Telling

/-!
Stores with alike keys, side by side. Requests that differ in nothing but such keys are answered and
reported in the same way, and the stores show the same of themselves ever after.
-/
namespace CredentialRotation

/-- Two requests that differ in nothing but the keys that they bring or read; the files are those
that the refreshers watch. -/
inductive Served.Alike {ι : Type} (files : ι → IdentityFiles) : Served ι → Served ι → Prop
  | tick (i : ι) {answers answers' : List FileAnswer} {reply reply' : Reply}
      (reads : List.Forall₂ (FileAnswer.Alike (files i)) answers answers') :
    Alike files ⟨.tick i, answers, reply⟩ ⟨.tick i, answers', reply'⟩
  | guardedTick (i : ι) {answers answers' : List FileAnswer} {reply reply' : Reply}
      (reads : List.Forall₂ (FileAnswer.Alike (files i)) answers answers') :
    Alike files ⟨.guardedTick i, answers, reply⟩ ⟨.guardedTick i, answers', reply'⟩
  | update {key key' : PrivateKey} (keys : key.Alike key') (chain : Chain)
      {answers answers' : List FileAnswer} {reply reply' : Reply} :
    Alike files ⟨.update key chain, answers, reply⟩ ⟨.update key' chain, answers', reply'⟩
  | updateFromFiles (own : IdentityFiles) {answers answers' : List FileAnswer}
      {reply reply' : Reply} (reads : List.Forall₂ (FileAnswer.Alike own) answers answers') :
    Alike files ⟨.updateFromFiles own, answers, reply⟩ ⟨.updateFromFiles own, answers', reply'⟩
  | set {snapshot snapshot' : Snapshot} (snapshots : snapshot.Alike snapshot')
      {answers answers' : List FileAnswer} {reply reply' : Reply} :
    Alike files ⟨.set snapshot, answers, reply⟩ ⟨.set snapshot', answers', reply'⟩
  | publish {p p' : Published} (snapshots : p.snapshot.Alike p'.snapshot)
      {answers answers' : List FileAnswer} {reply reply' : Reply} :
    Alike files ⟨.publish p, answers, reply⟩ ⟨.publish p', answers', reply'⟩

/-- A request as it was served, with what was reported meanwhile. -/
structure Told (ι : Type) where
  served : Served ι
  events : List Event

/-- What there is to be seen of it: what the asker gets back, and what is in the log. -/
def Told.seen {ι : Type} (e : Told ι) : Reply × List Event :=
  (e.served.reply, e.events)

namespace SharedStore
variable {ι : Type} [DecidableEq ι] {files : ι → IdentityFiles} {s s' t t' : SharedStore ι}

/-- One step: a request is served and reported. -/
def Tells (s : SharedStore ι) (e : Told ι) (t : SharedStore ι) : Prop :=
  s.Serves e.served t ∧ (s.report e.served.request).Yields e.served.answers e.events

/-- The stores hold snapshots that are alike, if any, and the refreshers have seen the same. -/
structure Alike (files : ι → IdentityFiles) (s s' : SharedStore ι) : Prop where
  store : s.store.Alike s'.store
  watch : s.watch = s'.watch
  files : ∀ i, (s.watch i).files = files i

omit [DecidableEq ι] in
theorem alike_start (files : ι → IdentityFiles) : Alike files (start files) (start files) :=
  ⟨.none, rfl, fun _ => rfl⟩

theorem Alike.afterTick (alike : Alike files s s') (i : ι) {x y : Option Tick}
    (ticks : Option.Rel Tick.Alike x y) : Alike files (s.afterTick i x) (s'.afterTick i y) := by
  cases ticks with
  | none => exact alike
  | some ticks =>
    cases ticks with
    | unchanged =>
      rw [afterTick_unchanged, afterTick_unchanged]
      exact alike
    | reloaded key chain snapshots =>
      refine ⟨Store.alike_of_current rfl rfl snapshots, ?_, fun j => ?_⟩
      · exact congrArg (fun w => Function.update w i ((w i).advance key chain)) alike.watch
      · change (Function.update s.watch i ((s.watch i).advance key chain) j).files = files j
        by_cases same : j = i
        · subst same
          rw [Function.update_self]
          exact alike.files j
        · rw [Function.update_of_ne same]
          exact alike.files j

omit [DecidableEq ι] in
theorem Alike.afterUpdate (alike : Alike files s s')
    {x y : Except CredentialFailure IdentityManager}
    (course : SameCourse IdentityManager.Alike x y) :
    (s.afterUpdate x).1 = (s'.afterUpdate y).1 ∧
      Alike files (s.afterUpdate x).2 (s'.afterUpdate y).2 := by
  cases course with
  | ok managers => exact ⟨rfl, managers, alike.watch, alike.files⟩
  | error failure => exact ⟨rfl, alike⟩

section Step
variable {r r' : Served ι} {e e' : Told ι} {answers answers' : List FileAnswer}

omit [DecidableEq ι] in
theorem Alike.ticks (alike : Alike files s s') {i : ι} {x y : Attempt Tick}
    (ticks : (Tick.program (s.watch i)).Yields answers x)
    (ticks' : (Tick.program (s'.watch i)).Yields answers' y)
    (reads : List.Forall₂ (FileAnswer.Alike (files i)) answers answers') :
    Attempt.Alike Tick.Alike x y := by
  rw [← alike.watch] at ticks'
  rw [← alike.files i] at reads
  exact (Tick.program_alike _).of_yields ticks ticks' reads

/-- What is replied to such requests is the same, and the stores stay alike. -/
theorem Alike.serves (alike : Alike files s s') (requests : Served.Alike files r r')
    (serves : s.Serves r t) (serves' : s'.Serves r' t') :
    r.reply = r'.reply ∧ Alike files t t' := by
  cases requests with
  | tick i reads =>
    obtain ⟨x, ticks, result⟩ := FileProgram.yields_bind_done_iff.1 serves
    obtain ⟨y, ticks', result'⟩ := FileProgram.yields_bind_done_iff.1 serves'
    obtain ⟨rfl, rfl⟩ := Prod.mk.inj result
    obtain ⟨rfl, rfl⟩ := Prod.mk.inj result'
    have course := (alike.ticks ticks ticks' reads).outcome
    exact ⟨congrArg Reply.ticked (course.map_eq fun _ _ => Tick.Alike.kind),
      alike.afterTick i course.toOption⟩
  | guardedTick i reads =>
    obtain ⟨x, ticks, result⟩ := FileProgram.yields_bind_done_iff.1 serves
    obtain ⟨y, ticks', result'⟩ := FileProgram.yields_bind_done_iff.1 serves'
    obtain ⟨rfl, rfl⟩ := Prod.mk.inj result
    obtain ⟨rfl, rfl⟩ := Prod.mk.inj result'
    have values := (alike.ticks ticks ticks' reads).outcome.toOption
    exact ⟨congrArg Reply.guarded (map_eq_of_rel values fun _ _ => Tick.Alike.kind),
      alike.afterTick i values⟩
  | update keys chain =>
    obtain ⟨-, result⟩ := FileProgram.yields_done_iff.1 serves
    obtain ⟨-, result'⟩ := FileProgram.yields_done_iff.1 serves'
    have updates := (IdentityManager.update_alike ⟨s.store⟩ ⟨s'.store⟩ keys chain).outcome
    obtain ⟨replies, stores⟩ := alike.afterUpdate updates
    rw [← result, ← result'] at replies stores
    exact ⟨replies, stores⟩
  | updateFromFiles own reads =>
    obtain ⟨x, updates, result⟩ := FileProgram.yields_bind_done_iff.1 serves
    obtain ⟨y, updates', result'⟩ := FileProgram.yields_bind_done_iff.1 serves'
    have related := (IdentityManager.updateProgram_alike ⟨s.store⟩ ⟨s'.store⟩ own).of_yields updates
      updates' reads
    obtain ⟨replies, stores⟩ := alike.afterUpdate related.outcome
    rw [← result, ← result'] at replies stores
    exact ⟨replies, stores⟩
  | set snapshots =>
    obtain ⟨-, result⟩ := FileProgram.yields_done_iff.1 serves
    obtain ⟨-, result'⟩ := FileProgram.yields_done_iff.1 serves'
    obtain ⟨rfl, rfl⟩ := Prod.mk.inj result
    obtain ⟨rfl, rfl⟩ := Prod.mk.inj result'
    exact ⟨rfl, Store.alike_of_current rfl rfl snapshots, alike.watch, alike.files⟩
  | publish snapshots =>
    obtain ⟨-, result⟩ := FileProgram.yields_done_iff.1 serves
    obtain ⟨-, result'⟩ := FileProgram.yields_done_iff.1 serves'
    obtain ⟨rfl, rfl⟩ := Prod.mk.inj result
    obtain ⟨rfl, rfl⟩ := Prod.mk.inj result'
    exact ⟨rfl, Store.alike_of_current rfl rfl snapshots, alike.watch, alike.files⟩

omit [DecidableEq ι] in
theorem Alike.report (alike : Alike files s s') (requests : Served.Alike files r r')
    {events events' : List Event} (reports : (s.report r.request).Yields r.answers events)
    (reports' : (s'.report r'.request).Yields r'.answers events') : events = events' := by
  cases requests with
  | tick i reads =>
    obtain ⟨x, ticks, rfl⟩ := FileProgram.yields_bind_done_iff.1 reports
    obtain ⟨y, ticks', rfl⟩ := FileProgram.yields_bind_done_iff.1 reports'
    exact (alike.ticks ticks ticks' reads).events
  | guardedTick i reads =>
    obtain ⟨x, ticks, rfl⟩ := FileProgram.yields_bind_done_iff.1 reports
    obtain ⟨y, ticks', rfl⟩ := FileProgram.yields_bind_done_iff.1 reports'
    rw [← alike.watch]
    exact Tick.guarded_events _ (alike.ticks ticks ticks' reads)
  | update keys chain =>
    obtain ⟨-, rfl⟩ := FileProgram.yields_done_iff.1 reports
    obtain ⟨-, rfl⟩ := FileProgram.yields_done_iff.1 reports'
    exact (IdentityManager.update_alike _ _ keys chain).events
  | updateFromFiles own reads =>
    obtain ⟨x, updates, rfl⟩ := FileProgram.yields_bind_done_iff.1 reports
    obtain ⟨y, updates', rfl⟩ := FileProgram.yields_bind_done_iff.1 reports'
    exact ((IdentityManager.updateProgram_alike _ _ own).of_yields updates updates' reads).events
  | set snapshots =>
    obtain ⟨-, rfl⟩ := FileProgram.yields_done_iff.1 reports
    obtain ⟨-, rfl⟩ := FileProgram.yields_done_iff.1 reports'
    rfl
  | publish snapshots =>
    obtain ⟨-, rfl⟩ := FileProgram.yields_done_iff.1 reports
    obtain ⟨-, rfl⟩ := FileProgram.yields_done_iff.1 reports'
    rfl

theorem Alike.tells (alike : Alike files s s') (requests : Served.Alike files e.served e'.served)
    (step : s.Tells e t) (step' : s'.Tells e' t') : Alike files t t' ∧ e.seen = e'.seen := by
  obtain ⟨replies, states⟩ := alike.serves requests step.1 step'.1
  have events := alike.report requests step.2 step'.2
  exact ⟨states, Prod.ext replies events⟩

/-- After any such requests the stores are alike still, and all that was to be seen was the same. -/
theorem Alike.run (alike : Alike files s s') {history history' : List (Told ι)}
    (run : Run Tells s history t) (run' : Run Tells s' history' t')
    (requests : List.Forall₂ (fun e e' => Served.Alike files e.served e'.served) history history') :
    Alike files t t' ∧ history.map Told.seen = history'.map Told.seen := by
  obtain ⟨last, seen⟩ : _ ∧ List.Forall₂ (fun e e' => e.seen = e'.seen) history history' :=
    run.side_by_side (fun _ _ _ _ _ _ alike requests => alike.tells requests) alike run' requests
  refine ⟨last, ?_⟩
  rwa [← List.forall₂_eq_eq_eq, List.forall₂_map_left_iff, List.forall₂_map_right_iff]

/-- On files that stand still a tick is served and reported by one run of its work. -/
theorem tells_tick (s : SharedStore ι) (i : ι) (fs : FileSystem) :
    s.Tells ⟨⟨.tick i, (Tick.program (s.watch i)).answersOf fs,
        .ticked (((Tick.program (s.watch i)).run fs).outcome.map Tick.kind)⟩,
        ((Tick.program (s.watch i)).run fs).events⟩
      (s.afterTick i ((Tick.program (s.watch i)).run fs).outcome.toOption) :=
  ⟨s.serves_tick i fs, FileProgram.yields_bind_done_iff.2 ⟨_, FileProgram.yields_run fs _, rfl⟩⟩

end Step

/-- Everything that shows the identity as text shows it in the same way. -/
structure SameTexts (s s' : SharedStore ι) : Prop where
  store : s.store.shown = s'.store.shown
  manager : (IdentityManager.mk s.store).shown = (IdentityManager.mk s'.store).shown
  refreshers : ∀ i, (s.watch i).shownRefresher = (s'.watch i).shownRefresher
  snapshot : ∀ loadedAt, (s.store.snapshot?.map fun held => held.shown loadedAt) =
    s'.store.snapshot?.map fun held => held.shown loadedAt
  key : (s.store.snapshot?.map fun held => held.key.shown) =
    s'.store.snapshot?.map fun held => held.key.shown

omit [DecidableEq ι] in
theorem Alike.sameTexts (alike : Alike files s s') : SameTexts s s' := by
  refine ⟨alike.store.shown, IdentityManager.Alike.shown alike.store, fun i => ?_, ?_, ?_⟩
  · rw [alike.watch]
  · intro loadedAt
    exact map_eq_of_rel alike.store fun _ _ held => held.shown loadedAt
  · exact map_eq_of_rel alike.store fun _ _ held => held.key.shown

end SharedStore
end CredentialRotation
