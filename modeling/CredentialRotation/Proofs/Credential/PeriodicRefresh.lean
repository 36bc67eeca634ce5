import CredentialRotation.Proofs.Credential.PeriodicTask
import CredentialRotation.Proofs.Credential.SharedStore
import CredentialRotation.Proofs.Credential.Site

/-!
A periodic task at work, while time passes, its handle is used and dropped, and its files answer
every call as they like. What becomes of the store and of the watch state is what becomes of them
when ticks are asked for one after another.
-/
namespace CredentialRotation

/-- A task at a moment, with the store it publishes to and the answers that its tick under way was
given so far. -/
structure PeriodicRefresh where
  now : Duration
  task : PeriodicTask
  store : Store
  answers : List FileAnswer

namespace PeriodicRefresh

/-- A task that was just started, for a refresher that may have loaded before. -/
def start (r : Refresher) (period now : Duration) : PeriodicRefresh where
  now := now
  task := (PeriodicTask.start r.watch period now).value
  store := r.store
  answers := []

/-- What the ticks of the task change. -/
def refresher (s : PeriodicRefresh) : Refresher :=
  ⟨s.task.watch, s.store⟩

inductive Event
  | elapsed (span : Duration)
  | cancelled
  | handleDropped
  | heard
  | started
  | answered (answer : FileAnswer)
  | ended (tick : Served Unit)
  | aborted

namespace Event

def isHeard : Event → Bool
  | .heard => true
  | _ => false

def isStart : Event → Bool
  | .started => true
  | _ => false

/-- A tick came to its end. -/
def isClose : Event → Bool
  | .ended _ | .aborted => true
  | _ => false

/-- The request for a tick that an event fulfils. -/
def served? : Event → Option (Served Unit)
  | .ended tick => some tick
  | _ => none

end Event

/-- Time passes, the handle is used or dropped, the task hears of it, or a tick starts, makes its
next call, comes to its end or is aborted. Files may answer every call as they like. -/
inductive Step : PeriodicRefresh → Event → PeriodicRefresh → Prop
  | elapsed (s : PeriodicRefresh) (span : Duration) :
    Step s (.elapsed span) { s with now := ⟨s.now.nanos + span.nanos⟩ }
  | cancelled (s : PeriodicRefresh) {task : PeriodicTask}
      (next : s.task.after? .cancel = some task) : Step s .cancelled { s with task }
  | handleDropped (s : PeriodicRefresh) {task : PeriodicTask}
      (next : s.task.after? .dropHandle = some task) : Step s .handleDropped { s with task }
  | heard (s : PeriodicRefresh) {task : PeriodicTask}
      (next : s.task.after? .hears = some task) : Step s .heard { s with task }
  | started (s : PeriodicRefresh) {task : PeriodicTask}
      (next : s.task.after? (.tickStarts s.now) = some task) :
    Step s .started { s with task, answers := [] }
  | answered (s : PeriodicRefresh) {a : FileAnswer} (ticking : s.task.phase = .ticking)
      (asks : (Tick.program s.task.watch).Asks s.answers a) :
    Step s (.answered a) { s with answers := s.answers ++ [a] }
  | ended (s : PeriodicRefresh) {x : Attempt Tick} {tick : Option Tick} {task : PeriodicTask}
      (comes : (Tick.program s.task.watch).Yields s.answers x)
      (guarded : (Tick.guarded s.task.watch.files x).value = tick)
      (next : s.task.after? (.tickEnds (s.refresher.after tick).watch) = some task) :
    Step s (.ended ⟨.guardedTick (), s.answers, .guarded (tick.map Tick.kind)⟩)
      { s with task, store := (s.refresher.after tick).store, answers := [] }
  | aborted (s : PeriodicRefresh) {task : PeriodicTask}
      (next : s.task.after? .tickAborts = some task) : Step s .aborted { s with task }

/-- The refresher of the task as the only one that works on its store. -/
def shared (s : PeriodicRefresh) : SharedStore Unit :=
  ⟨s.store, fun _ => s.task.watch⟩

variable {s t u : PeriodicRefresh} {e : Event} {history later : List Event}

/-- The task changes by a signal, or not at all. -/
theorem task_of_step (step : Step s e t) :
    t.task = s.task ∨ ∃ signal, s.task.after? signal = some t.task := by
  cases step with
  | elapsed span => exact .inl rfl
  | answered ticking asks => exact .inl rfl
  | cancelled next => exact .inr ⟨_, next⟩
  | handleDropped next => exact .inr ⟨_, next⟩
  | heard next => exact .inr ⟨_, next⟩
  | started next => exact .inr ⟨_, next⟩
  | ended comes guarded next => exact .inr ⟨_, next⟩
  | aborted next => exact .inr ⟨_, next⟩

theorem attentive_of_step (a : s.task.Attentive) (step : Step s e t) : t.task.Attentive := by
  rcases task_of_step step with same | ⟨signal, next⟩
  · rwa [same]
  · exact a.after? next

section Serial

theorem afterTick_shared (s : PeriodicRefresh) (tick : Option Tick) :
    s.shared.afterTick () tick =
      ⟨(s.refresher.after tick).store, fun _ => (s.refresher.after tick).watch⟩ := by
  cases tick with
  | none => rfl
  | some tick =>
    exact congrArg (SharedStore.mk _) (Function.update_eq_const_of_subsingleton () _ _)

/-- A tick of the task serves a request for a tick. -/
theorem serves_of_ended {r : Served Unit} (step : Step s (.ended r) t) :
    r.request = .guardedTick () ∧ s.shared.Serves r t.shared := by
  generalize eventEq : Event.ended r = event at step
  cases step with
  | @ended x tick task comes guarded next =>
    obtain rfl := Event.ended.inj eventEq
    obtain ⟨-, rfl⟩ := PeriodicTask.after?_tickEnds_iff.1 next
    refine ⟨rfl, FileProgram.yields_bind_done_iff.2 ⟨x, comes, ?_⟩⟩
    subst guarded
    exact Prod.ext rfl (afterTick_shared s _).symm
  | _ => cases eventEq

/-- Nothing but the end of a tick changes the store or the watch state. -/
theorem shared_of_step (step : Step s e t) (other : e.served? = none) : t.shared = s.shared := by
  have same {watch : WatchState} (kept : watch = s.task.watch) :
      (⟨s.store, fun _ => watch⟩ : SharedStore Unit) = s.shared := by
    rw [kept, shared]
  cases step with
  | elapsed span => exact same rfl
  | answered ticking asks => exact same rfl
  | cancelled next => exact same (PeriodicTask.watch_of_after? next nofun)
  | handleDropped next => exact same (PeriodicTask.watch_of_after? next nofun)
  | heard next => exact same (PeriodicTask.watch_of_after? next nofun)
  | started next => exact same (PeriodicTask.watch_of_after? next nofun)
  | ended comes guarded next => cases other
  | aborted next => exact same (PeriodicTask.watch_of_after? next nofun)

theorem serves_of_run (run : Run Step s history t) :
    Run SharedStore.Serves s.shared (history.filterMap Event.served?) t.shared := by
  refine run.simulated shared Event.served? (fun s e t => shared_of_step) ?_
  intro s e t r step sight
  cases e with
  | ended tick =>
    obtain rfl := Option.some.inj sight
    exact (serves_of_ended step).2
  | _ => cases sight

end Serial

section Whole

variable {answers : List FileAnswer} {x : Attempt Tick}

/-- The task after a whole tick that started just now. -/
def ticked (s : PeriodicRefresh) (tick : Option Tick) : PeriodicRefresh :=
  { s with
    task := { s.task with watch := (s.refresher.after tick).watch, due := s.task.nextDue s.now }
    store := (s.refresher.after tick).store
    answers := [] }

/-- The events of a tick from its start to its end. -/
def wholeTick (answers : List FileAnswer) (tick : Option Tick) : List Event :=
  .started :: (answers.map .answered ++
    [.ended ⟨.guardedTick (), answers, .guarded (tick.map Tick.kind)⟩])

theorem countP_isStart_wholeTick (answers : List FileAnswer) (tick : Option Tick) :
    (wholeTick answers tick).countP Event.isStart = 1 := by
  have calls : (answers.map Event.answered).countP Event.isStart = 0 := by
    simp [Event.isStart]
  rw [wholeTick, List.countP_cons_of_pos rfl, List.countP_append, calls]
  rfl

/-- The calls of a tick under way may be answered one after another. -/
theorem exists_calls (more : List FileAnswer) (ticking : s.task.phase = .ticking)
    (comes : (Tick.program s.task.watch).Yields (s.answers ++ answers ++ more) x) :
    Run Step s (answers.map .answered) { s with answers := s.answers ++ answers } := by
  induction answers generalizing s with
  | nil =>
    rw [List.append_nil]
    exact .nil s
  | cons a answers ih =>
    have step := Step.answered s ticking ⟨answers ++ more, x, by simpa using comes⟩
    have rest := ih (s := { s with answers := s.answers ++ [a] }) ticking (by simpa using comes)
    rw [List.append_assoc] at rest
    exact .cons step rest

/-- Once its timer has expired, a waiting task can run any tick that could be asked for. -/
theorem exists_wholeTick (waits : s.task.phase = .waiting) (due : s.task.due.nanos ≤ s.now.nanos)
    (comes : (Tick.program s.task.watch).Yields answers x) :
    Run Step s (wholeTick answers x.outcome.toOption) (s.ticked x.outcome.toOption) := by
  have starts := Step.started s (PeriodicTask.after?_tickStarts_iff.2 ⟨waits, due, rfl⟩)
  refine .cons starts (Run.concat_iff.2 ⟨_, exists_calls [] rfl (by simpa using comes), ?_⟩)
  refine .ended _ comes rfl (PeriodicTask.after?_tickEnds_iff.2 ⟨rfl, ?_⟩)
  simp only [← waits]
  rfl

/-- Once its timer has expired, a waiting task can load two files it has not seen. -/
theorem exists_loading (k : KeyFile) (c : ChainFile) (waits : s.task.phase = .waiting)
    (due : s.task.due.nanos ≤ s.now.nanos)
    (gate : s.task.watch.bothChanged k.modified c.modified = true) :
    ∃ answers, Run Step s (wholeTick answers (some (.reloaded k.modified c.modified (k.pair c))))
      (s.ticked (some (.reloaded k.modified c.modified (k.pair c)))) := by
  have whole := exists_wholeTick waits due (Tick.yields_load gate k.data c.data)
  rw [Tick.load_outcome, k.decode_pair] at whole
  exact ⟨_, whole⟩

end Whole

section Exits

theorem exists_started_iff : (∃ t, Step s .started t) ↔
    s.task.phase = .waiting ∧ s.task.due.nanos ≤ s.now.nanos := by
  constructor
  · rintro ⟨t, step⟩
    cases step with
    | started next =>
      obtain ⟨waits, expired, -⟩ := PeriodicTask.after?_tickStarts_iff.1 next
      exact ⟨waits, expired⟩
  · rintro ⟨waits, expired⟩
    exact ⟨_, .started s (PeriodicTask.after?_tickStarts_iff.2 ⟨waits, expired, rfl⟩)⟩

/-- What a history tells about the task. -/
structure Accounted (past : List Event) (s : PeriodicRefresh) : Prop where
  attentive : s.task.Attentive
  cancelled : s.task.channel.cancelled = true ↔ .cancelled ∈ past
  exited : s.task.phase = .finished → .cancelled ∈ past ∨ .aborted ∈ past
  /-- A tick starts only after the one before it has come to its end. -/
  balanced : past.countP Event.isStart =
    past.countP Event.isClose + if s.task.phase = .ticking then 1 else 0
  /-- A task that goes on has heard of nothing but the end of its handle. -/
  heard : s.task.phase ≠ .finished → past.countP Event.isHeard = if s.task.listening then 0 else 1

theorem accounted_start (r : Refresher) (period now : Duration) :
    Accounted [] (start r period now) where
  attentive := PeriodicTask.attentive_start r.watch period now
  cancelled := ⟨nofun, nofun⟩
  exited := nofun
  balanced := rfl
  heard _ := rfl

variable {past : List Event}

/-- An event that is none of those that are counted. -/
theorem Accounted.quiet (a : Accounted past s) (attentive : t.task.Attentive)
    (cancelled : t.task.channel.cancelled = s.task.channel.cancelled)
    (phase : t.task.phase = s.task.phase) (listening : t.task.listening = s.task.listening)
    (other : e ≠ .cancelled)
    (uncounted : e.isStart = false ∧ e.isClose = false ∧ e.isHeard = false) :
    Accounted (past ++ [e]) t := by
  obtain ⟨start, close, heard⟩ := uncounted
  refine ⟨attentive, ?_, ?_, ?_, ?_⟩
  · simp [cancelled, a.cancelled, other.symm]
  · intro finished
    exact (a.exited (phase ▸ finished)).imp (List.mem_append_left _) (List.mem_append_left _)
  · simpa [phase, start, close] using a.balanced
  · simpa [phase, listening, heard] using a.heard

theorem Accounted.step (a : Accounted past s) (step : Step s e t) :
    Accounted (past ++ [e]) t := by
  have attentive := attentive_of_step a.attentive step
  cases step with
  | elapsed span => exact a.quiet attentive rfl rfl rfl nofun ⟨rfl, rfl, rfl⟩
  | answered ticking asks => exact a.quiet attentive rfl rfl rfl nofun ⟨rfl, rfl, rfl⟩
  | handleDropped next =>
    obtain ⟨-, rfl⟩ := PeriodicTask.after?_dropHandle_iff.1 next
    exact a.quiet attentive rfl rfl rfl nofun ⟨rfl, rfl, rfl⟩
  | cancelled next =>
    obtain ⟨-, rfl⟩ := PeriodicTask.after?_cancel_iff.1 next
    refine ⟨attentive, ?_, ?_, ?_, ?_⟩
    · simp [CancelChannel.send]
    · simp
    · simpa [Event.isStart, Event.isClose] using a.balanced
    · simpa [Event.isHeard] using a.heard
  | heard next =>
    have news := PeriodicTask.after?_hears_iff.1 next
    have waits := news.waits
    have balanced := a.balanced
    rcases a.attentive.hears news with ⟨cancelled, rfl⟩ | ⟨-, -, listens, rfl⟩
    · refine ⟨attentive, ?_, ?_, ?_, by simp⟩
      · simp [a.cancelled]
      · simp [a.cancelled.1 cancelled]
      · simpa [Event.isStart, Event.isClose, waits] using balanced
    · refine ⟨attentive, ?_, ?_, ?_, ?_⟩
      · simp [a.cancelled]
      · simp [waits]
      · simpa [Event.isStart, Event.isClose, waits] using balanced
      · simpa [Event.isHeard, waits, listens] using a.heard
  | started next =>
    obtain ⟨waits, -, rfl⟩ := PeriodicTask.after?_tickStarts_iff.1 next
    refine ⟨attentive, ?_, by simp, ?_, ?_⟩
    · simp [a.cancelled]
    · simpa [Event.isStart, Event.isClose, waits] using a.balanced
    · simpa [Event.isHeard, waits] using a.heard
  | ended comes guarded next =>
    obtain ⟨ticks, rfl⟩ := PeriodicTask.after?_tickEnds_iff.1 next
    refine ⟨attentive, ?_, by simp, ?_, ?_⟩
    · simp [a.cancelled]
    · simpa [Event.isStart, Event.isClose, ticks] using a.balanced
    · simpa [Event.isHeard, ticks] using a.heard
  | aborted next =>
    obtain ⟨ticks, rfl⟩ := PeriodicTask.after?_tickAborts_iff.1 next
    refine ⟨attentive, ?_, ?_, ?_, by simp⟩
    · simp [a.cancelled]
    · simp
    · simpa [Event.isStart, Event.isClose, ticks] using a.balanced

theorem accounted_of_run {r : Refresher} {period now : Duration}
    (run : Run Step (start r period now) history s) : Accounted history s :=
  run.holds_of_steps (accounted_start r period now) fun _ _ _ _ _ a step => a.step step

/-- A cancellation that waits to be heard ends the task when it is. -/
theorem hears_cancellation (a : s.task.Attentive) (cancelled : s.task.channel.cancelled = true)
    (waits : s.task.phase = .waiting) :
    (∃ t, Step s .heard t) ∧ ∀ t, Step s .heard t → t.task.phase = .finished := by
  obtain ⟨unseen, listens⟩ := a.pending (by simp [waits]) cancelled
  refine ⟨⟨_, .heard s (PeriodicTask.after?_hears_iff.2 (.message waits listens unseen))⟩, ?_⟩
  intro t step
  cases step with
  | heard next =>
    rcases a.hears (PeriodicTask.after?_hears_iff.1 next) with ⟨-, rfl⟩ | ⟨running, -⟩
    · rfl
    · simp [cancelled] at running

theorem finished_of_step (finished : s.task.phase = .finished) (step : Step s e t) :
    t.task.phase = .finished ∧ t.shared = s.shared := by
  have idle : e.served? = none ∧ t.task.phase = .finished := by
    cases step with
    | elapsed span => exact ⟨rfl, finished⟩
    | answered ticking asks => exact ⟨rfl, finished⟩
    | cancelled next =>
      obtain ⟨-, rfl⟩ := PeriodicTask.after?_cancel_iff.1 next
      exact ⟨rfl, finished⟩
    | handleDropped next =>
      obtain ⟨-, rfl⟩ := PeriodicTask.after?_dropHandle_iff.1 next
      exact ⟨rfl, finished⟩
    | heard next =>
      cases finished.symm.trans (PeriodicTask.after?_hears_iff.1 next).waits
    | started next =>
      cases finished.symm.trans (PeriodicTask.after?_tickStarts_iff.1 next).1
    | ended comes guarded next =>
      cases finished.symm.trans (PeriodicTask.after?_tickEnds_iff.1 next).1
    | aborted next =>
      cases finished.symm.trans (PeriodicTask.after?_tickAborts_iff.1 next).1
  exact ⟨idle.2, shared_of_step step idle.1⟩

theorem finished_of_run (finished : s.task.phase = .finished) (run : Run Step s later t) :
    t.task.phase = .finished ∧ t.shared = s.shared := by
  induction run with
  | nil s => exact ⟨finished, rfl⟩
  | cons first rest ih =>
    obtain ⟨still, same⟩ := finished_of_step finished first
    obtain ⟨last, kept⟩ := ih still
    exact ⟨last, kept.trans same⟩

end Exits

/-- What a task is like that does what serial ticks do, and ends when it should. -/
structure Orderly (r : Refresher) (history : List Event) (s : PeriodicRefresh) : Prop where
  /-- Store and watch state are what the ended ticks make of them, each from where the last one
  left them. -/
  serial : Run SharedStore.Serves ⟨r.store, fun _ => r.watch⟩ (history.filterMap Event.served?)
    s.shared
  asked : ∀ tick ∈ history.filterMap Event.served?, tick.request = .guardedTick ()
  /-- No tick starts before the last one has come to its end. -/
  apart : history.countP Event.isStart =
    history.countP Event.isClose + if s.task.phase = .ticking then 1 else 0
  exits : s.task.phase = .finished → .cancelled ∈ history ∨ .aborted ∈ history
  /-- Until then every expired timer may start a tick, and a dropped handle is heard of once. -/
  lasts : .cancelled ∉ history → .aborted ∉ history → history.countP Event.isHeard ≤ 1 ∧
    (s.task.phase = .waiting → s.task.due.nanos ≤ s.now.nanos → ∃ t, Step s .started t)
  /-- Whenever the task waits, a cancellation is there to be heard, and hearing it is the end. -/
  observed : .cancelled ∈ history → s.task.phase = .waiting →
    (∃ t, Step s .heard t) ∧ ∀ t, Step s .heard t → t.task.phase = .finished
  silent : s.task.phase = .finished → ∀ later t, Run Step s later t → t.shared = s.shared

/-- However time, handle and files interfere, a periodic task does what ticks do that are asked for
one after another, and ends only if it was cancelled or a tick was aborted. -/
theorem periodic_ticks_are_serial (r : Refresher) (period now : Duration)
    (run : Run Step (start r period now) history s) : Orderly r history s := by
  have a := accounted_of_run run
  refine ⟨serves_of_run run, ?_, a.balanced, ?_, ?_, ?_, ?_⟩
  · intro tick mem
    obtain ⟨e, happened, sight⟩ := List.mem_filterMap.1 mem
    obtain ⟨u, v, step⟩ := run.step_of_mem happened
    cases e with
    | ended tick' =>
      obtain rfl := Option.some.inj sight
      exact (serves_of_ended step).1
    | _ => cases sight
  · exact a.exited
  · intro running unbroken
    have active : s.task.phase ≠ .finished := by
      intro finished
      rcases a.exited finished with cancel | abort
      · exact running cancel
      · exact unbroken abort
    refine ⟨?_, ?_⟩
    · rw [a.heard active]
      split <;> decide
    · intro waits due
      exact exists_started_iff.2 ⟨waits, due⟩
  · intro cancel waits
    exact hears_cancellation a.attentive (a.cancelled.2 cancel) waits
  · intro finished later t rest
    exact (finished_of_run finished rest).2

/-- A task that loads its files, is cancelled and loses its handle, and hears of the former. -/
theorem periodic_ticks_are_serial_cancelled :
    ∃ (r : Refresher) (history : List Event) (s : PeriodicRefresh),
      Run Step (start r (.ofMillis 10) ⟨0⟩) history s ∧ .cancelled ∈ history ∧
      .handleDropped ∈ history ∧ s.task.phase = .finished ∧ s.store.snapshot? ≠ none ∧
      Orderly r history s := by
  let r : Refresher := ⟨.fresh pemFiles, .empty⟩
  let k := KeyFile.neighbours ⟨1, 0⟩
  let c := ChainFile.least false ⟨1, 0⟩
  let first := start r (.ofMillis 10) ⟨0⟩
  let loaded := first.ticked (some (.reloaded k.modified c.modified (k.pair c)))
  obtain ⟨answers, loads⟩ := exists_loading (s := first) k c rfl (Nat.le_refl 0) rfl
  obtain ⟨s, rest, finished, configured⟩ :
      ∃ s, Run Step loaded [.cancelled, .handleDropped, .heard] s ∧
        s.task.phase = .finished ∧ s.store.snapshot? ≠ none := by
    refine ⟨_, .cons (.cancelled _ (PeriodicTask.after?_cancel_iff.2 ⟨rfl, rfl⟩)) (.cons
      (.handleDropped _ (PeriodicTask.after?_dropHandle_iff.2 ⟨rfl, rfl⟩)) (.cons
      (.heard _ (PeriodicTask.after?_hears_iff.2 (.message rfl rfl rfl))) (.nil _))), rfl, nofun⟩
  have run := Run.append_iff.2 ⟨_, loads, rest⟩
  exact ⟨r, _, _, run, by simp, by simp, finished, configured,
    periodic_ticks_are_serial r _ _ run⟩

end PeriodicRefresh
end CredentialRotation
