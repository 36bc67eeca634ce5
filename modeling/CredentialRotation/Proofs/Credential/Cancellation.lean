import CredentialRotation.Proofs.Credential.PeriodicRefresh

/-!
What a cancellation does to a periodic task. It is news that the task hears when it waits, and an
expired timer may wake the task before that: a tick may start, and publish, after the cancellation.
-/
namespace CredentialRotation

namespace PeriodicRefresh
variable {s t u : PeriodicRefresh} {e : Event} {past later : List Event}

section Timer

/-- The timer of a task since some moment: every tick that started has moved it by a period or
more, and the last one had found it expired. -/
structure Paced (s : PeriodicRefresh) (later : List Event) (t : PeriodicRefresh) : Prop where
  period : t.task.period = s.task.period
  wound : s.task.due.nanos + later.countP Event.isStart * s.task.period.nanos ≤ t.task.due.nanos
  expired : ∀ n, later.countP Event.isStart = n + 1 →
    s.task.due.nanos + n * s.task.period.nanos ≤ t.now.nanos

theorem paced_refl (s : PeriodicRefresh) : Paced s [] s where
  period := rfl
  wound := by simp
  expired := nofun

/-- An event that starts no tick. -/
theorem Paced.quiet (p : Paced s later t) (timer : u.task.due = t.task.due ∧
    u.task.period = t.task.period) (clock : t.now.nanos ≤ u.now.nanos) (other : e.isStart = false) :
    Paced s (later ++ [e]) u := by
  obtain ⟨due, period⟩ := timer
  have count : (later ++ [e]).countP Event.isStart = later.countP Event.isStart := by simp [other]
  refine ⟨period.trans p.period, ?_, ?_⟩
  · rw [count, due]
    exact p.wound
  · intro n starts
    exact (p.expired n (count ▸ starts)).trans clock

theorem Paced.step (p : Paced s later t) (step : Step t e u) : Paced s (later ++ [e]) u := by
  cases step with
  | elapsed span => exact p.quiet ⟨rfl, rfl⟩ (Nat.le_add_right _ _) rfl
  | answered ticking asks => exact p.quiet ⟨rfl, rfl⟩ (Nat.le_refl _) rfl
  | cancelled next => exact p.quiet (PeriodicTask.timer_of_after? next nofun) (Nat.le_refl _) rfl
  | handleDropped next =>
    exact p.quiet (PeriodicTask.timer_of_after? next nofun) (Nat.le_refl _) rfl
  | heard next => exact p.quiet (PeriodicTask.timer_of_after? next nofun) (Nat.le_refl _) rfl
  | ended comes guarded next =>
    exact p.quiet (PeriodicTask.timer_of_after? next nofun) (Nat.le_refl _) rfl
  | aborted next => exact p.quiet (PeriodicTask.timer_of_after? next nofun) (Nat.le_refl _) rfl
  | started next =>
    obtain ⟨-, expired, rfl⟩ := PeriodicTask.after?_tickStarts_iff.1 next
    have count : (later ++ [Event.started]).countP Event.isStart =
        later.countP Event.isStart + 1 := by
      simp [Event.isStart]
    refine ⟨p.period, ?_, ?_⟩
    · calc
        s.task.due.nanos + (later ++ [Event.started]).countP Event.isStart * s.task.period.nanos
        _ = s.task.due.nanos + later.countP Event.isStart * s.task.period.nanos +
            s.task.period.nanos := by rw [count, Nat.succ_mul, Nat.add_assoc]
        _ ≤ t.task.due.nanos + t.task.period.nanos := by
          rw [p.period]
          exact Nat.add_le_add_right p.wound _
        _ ≤ (t.task.nextDue t.now).nanos := PeriodicTask.due_add_period_le_nextDue expired
    · intro n starts
      obtain rfl := Nat.succ.inj (count.symm.trans starts)
      exact p.wound.trans expired

theorem paced_of_run (run : Run Step s later t) : Paced s later t :=
  run.holds_of_steps (paced_refl s) fun _ _ _ _ _ p step => p.step step

end Timer

/-- Any number of ticks may start before a waiting task hears anything. -/
theorem exists_starts (waits : s.task.phase = .waiting) (n : Nat) :
    ∃ later t, Run Step s later t ∧ later.countP Event.isStart = n := by
  induction n generalizing s with
  | zero => exact ⟨[], s, .nil s, rfl⟩
  | succ n ih =>
    -- The timer expires, and the tick fails at its first call.
    let late : PeriodicRefresh := { s with now := ⟨s.now.nanos + s.task.due.nanos⟩ }
    have passes : Step s (.elapsed s.task.due) late := .elapsed s s.task.due
    have fails : (Tick.program late.task.watch).Yields
        [.modified late.task.watch.files.key (.error .notFound)] _ := .modified _ (.done _)
    have tick := exists_wholeTick (s := late) waits (Nat.le_add_left _ _) fails
    obtain ⟨later, t, rest, starts⟩ := ih (s := late.ticked none) waits
    refine ⟨_, t, .cons passes (Run.append_iff.2 ⟨_, tick, rest⟩), ?_⟩
    simp [Event.isStart, countP_isStart_wholeTick, starts, Nat.add_comm]

/-- A waiting task whose timer has expired may be cancelled and load two files all the same. -/
theorem exists_loading_when_cancelled (k : KeyFile) (c : ChainFile)
    (alive : s.task.channel.handleAlive = true) (waits : s.task.phase = .waiting)
    (expired : s.task.due.nanos ≤ s.now.nanos)
    (gate : s.task.watch.bothChanged k.modified c.modified = true) :
    ∃ t later u, Step s .cancelled t ∧ t.store = s.store ∧ Run Step t later u ∧
      .started ∈ later ∧ u.store = s.store.set (k.pair c) := by
  have cancels := Step.cancelled s (PeriodicTask.after?_cancel_iff.2 ⟨alive, rfl⟩)
  obtain ⟨answers, loads⟩ := exists_loading (s := { s with
    task := { s.task with channel := s.task.channel.send } }) k c waits expired gate
  exact ⟨_, _, _, cancels, rfl, loads, List.mem_cons_self, rfl⟩

theorem length_served_le (history : List Event) :
    (history.filterMap Event.served?).length ≤ history.countP Event.isClose := by
  rw [List.length_filterMap_eq_countP]
  refine List.countP_mono_left fun e _ served => ?_
  cases e with
  | ended tick => rfl
  | _ => cases served

/-- What holds of a task that was cancelled when it came to `t`, and has come to `u` since. -/
structure CancelledAt (t : PeriodicRefresh) (later : List Event) (u : PeriodicRefresh) : Prop where
  /-- The task does not ask whether it was cancelled before it starts a tick. -/
  starts : (∃ v, Step u .started v) ↔ u.task.phase = .waiting ∧ u.task.due.nanos ≤ u.now.nanos
  /-- No tick starts that would not have been due. -/
  paced : ∀ n, later.countP Event.isStart = n + 1 →
    t.task.due.nanos + n * t.task.period.nanos ≤ u.now.nanos
  unbounded : u.task.phase = .waiting →
    ∀ n, ∃ more v, Run Step u more v ∧ more.countP Event.isStart = n
  heard : u.task.phase = .waiting →
    (∃ v, Step u .heard v) ∧ ∀ v, Step u .heard v → v.task.phase = .finished
  /-- Store and watch state change only by ticks that were under way or have started since. -/
  serial : Run SharedStore.Serves t.shared (later.filterMap Event.served?) u.shared
  few : (later.filterMap Event.served?).length ≤
    later.countP Event.isStart + if t.task.phase = .ticking then 1 else 0

/-- After a cancellation ticks still start as their timer expires, until the task hears of it. -/
theorem expired_timers_outlive_cancellation (r : Refresher) (period now : Duration)
    (run : Run Step (start r period now) past s) (cancels : Step s .cancelled t)
    (rest : Run Step t later u) : CancelledAt t later u := by
  have before := Run.concat_iff.2 ⟨s, run, cancels⟩
  have cancelledThen := accounted_of_run before
  have cancelledNow := accounted_of_run (Run.append_iff.2 ⟨t, before, rest⟩)
  have cancelled : u.task.channel.cancelled = true := cancelledNow.cancelled.2 (by simp)
  refine ⟨exists_started_iff, (paced_of_run rest).expired, exists_starts, ?_, serves_of_run rest,
    (length_served_le later).trans ?_⟩
  · exact hears_cancellation cancelledNow.attentive cancelled
  · have closed := cancelledThen.balanced
    have balanced := cancelledNow.balanced
    simp only [List.countP_append] at closed balanced
    omega

/-- A task is cancelled before its first tick, which loads its files nevertheless. -/
theorem expired_timers_outlive_cancellation_at_once :
    ∃ (r : Refresher) (later : List Event) (s t u : PeriodicRefresh),
      Run Step (start r (.ofMillis 10) ⟨0⟩) [] s ∧ Step s .cancelled t ∧ Run Step t later u ∧
      .started ∈ later ∧ CancelledAt t later u := by
  let r : Refresher := ⟨.fresh pemFiles, .empty⟩
  obtain ⟨t, later, u, cancels, -, rest, starts, -⟩ :=
    exists_loading_when_cancelled (s := start r (.ofMillis 10) ⟨0⟩) (.neighbours ⟨1, 0⟩)
      (.least false ⟨1, 0⟩) rfl rfl (Nat.le_refl 0) rfl
  exact ⟨r, later, _, t, u, .nil _, cancels, rest, starts,
    expired_timers_outlive_cancellation r _ _ (.nil _) cancels rest⟩

/-- No tick is under way when a task is cancelled, and yet another generation is published. -/
theorem cancelled_task_may_publish :
    ∃ (r : Refresher) (past later : List Event) (s t u : PeriodicRefresh),
      Run Step (start r (.ofMillis 10) ⟨0⟩) past s ∧ s.task.phase = .waiting ∧
      Step s .cancelled t ∧ Run Step t later u ∧ .started ∈ later ∧
      u.store.snapshot? ≠ t.store.snapshot? := by
  let r : Refresher := ⟨.fresh pemFiles, .empty⟩
  let k := KeyFile.neighbours ⟨1, 0⟩
  let c := ChainFile.least false ⟨1, 0⟩
  let k' := KeyFile.neighbours ⟨2, 0⟩
  let c' := ChainFile.least true ⟨2, 0⟩
  let first := start r (.ofMillis 10) ⟨0⟩
  let loaded := first.ticked (some (.reloaded k.modified c.modified (k.pair c)))
  let s : PeriodicRefresh :=
    { loaded with now := ⟨loaded.now.nanos + (Duration.ofMillis 10).nanos⟩ }
  obtain ⟨answers, loads⟩ := exists_loading (s := first) k c rfl (Nat.le_refl 0) rfl
  have run := Run.concat_iff.2 ⟨loaded, loads, .elapsed loaded (.ofMillis 10)⟩
  obtain ⟨t, later, u, cancels, kept, rest, starts, published⟩ :=
    exists_loading_when_cancelled (s := s) k' c' rfl rfl (by decide) (by decide)
  refine ⟨r, _, later, s, t, u, run, rfl, cancels, rest, starts, ?_⟩
  rw [published, kept]
  intro same
  have serials : c'.chain.serials = c.chain.serials :=
    congrArg (fun s => s.chain.serials) (Option.some.inj same)
  exact absurd serials (by decide)

end PeriodicRefresh
end CredentialRotation
