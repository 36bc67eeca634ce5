import CredentialRotation.Credential.Periodic
import Mathlib.Tactic.ByContra

/-!
Signals to a periodic task, one by one: when each can reach it and what it does. A cancellation is
news that waits to be heard, and no signal makes the task miss it.
-/
namespace CredentialRotation

namespace PeriodicTask
variable {task next : PeriodicTask}

theorem after?_cancel_iff : task.after? .cancel = some next ↔
    task.channel.handleAlive = true ∧ next = { task with channel := task.channel.send } := by
  simp only [after?, Option.ite_none_right_eq_some, Option.some.injEq, @eq_comm _ next]

theorem after?_dropHandle_iff : task.after? .dropHandle = some next ↔
    task.channel.handleAlive = true ∧ next = { task with channel := task.channel.dropHandle } := by
  simp only [after?, Option.ite_none_right_eq_some, Option.some.injEq, @eq_comm _ next]

theorem after?_tickStarts_iff {now : Duration} : task.after? (.tickStarts now) = some next ↔
    task.phase = .waiting ∧ task.due.nanos ≤ now.nanos ∧
      next = { task with phase := .ticking, due := task.nextDue now } := by
  simp only [after?, Option.ite_none_right_eq_some, Option.some.injEq, @eq_comm _ next, and_assoc]

theorem after?_tickEnds_iff {watch : WatchState} : task.after? (.tickEnds watch) = some next ↔
    task.phase = .ticking ∧ next = { task with phase := .waiting, watch } := by
  simp only [after?, Option.ite_none_right_eq_some, Option.some.injEq, @eq_comm _ next]

theorem after?_tickAborts_iff : task.after? .tickAborts = some next ↔
    task.phase = .ticking ∧ next = { task with phase := .finished } := by
  simp only [after?, Option.ite_none_right_eq_some, Option.some.injEq, @eq_comm _ next]

theorem due_add_period_le_nextDue {now : Duration} (expired : task.due.nanos ≤ now.nanos) :
    task.due.nanos + task.period.nanos ≤ (task.nextDue now).nanos := by
  unfold nextDue
  split
  next late => exact Nat.add_le_add_right expired _
  next inTime => exact Nat.le_refl _

/-- The two things that a waiting task can hear. -/
inductive Hears (task : PeriodicTask) : PeriodicTask → Prop
  | message (waits : task.phase = .waiting) (listens : task.listening = true)
      (unseen : task.channel.unseen = true) :
    Hears task ({ task with channel := { task.channel with unseen := false } }.onNews .message)
  | dropped (waits : task.phase = .waiting) (listens : task.listening = true)
      (unseen : task.channel.unseen = false) (gone : task.channel.handleAlive = false) :
    Hears task { task with listening := false }

theorem Hears.waits (h : Hears task next) : task.phase = .waiting := by
  cases h with
  | message waits listens unseen => exact waits
  | dropped waits listens unseen gone => exact waits

theorem after?_hears_iff : task.after? .hears = some next ↔ Hears task next := by
  constructor
  · intro h
    simp only [after?, CancelChannel.news?] at h
    split at h
    next waits =>
      split at h
      next unseen =>
        obtain rfl := Option.some.inj h
        exact .message waits.1 waits.2 unseen
      next unseen =>
        split at h
        next alive => cases h
        next gone =>
          obtain rfl := Option.some.inj h
          exact .dropped waits.1 waits.2 (by simpa using unseen) (by simpa using gone)
    next deaf => cases h
  · intro h
    cases h with
    | message waits listens unseen => simp [after?, CancelChannel.news?, waits, listens, unseen]
    | dropped waits listens unseen gone =>
      simp [after?, CancelChannel.news?, waits, listens, unseen, gone, onNews]

/-- Signals keep the period. Only a tick that ends brings a watch state, and only one that starts
winds up the timer. -/
theorem kept_of_after? {signal : Signal} (h : task.after? signal = some next) :
    next.period = task.period ∧
      ((∀ watch, signal ≠ .tickEnds watch) → next.watch = task.watch) ∧
      ((∀ now, signal ≠ .tickStarts now) → next.due = task.due) := by
  cases signal with
  | cancel => simp [(after?_cancel_iff.1 h).2]
  | dropHandle => simp [(after?_dropHandle_iff.1 h).2]
  | hears =>
    cases after?_hears_iff.1 h with
    | message waits listens unseen =>
      simp only [onNews]
      split <;> simp
    | dropped waits listens unseen gone => simp
  | tickStarts now => simp [(after?_tickStarts_iff.1 h).2.2]
  | tickEnds watch => simp [(after?_tickEnds_iff.1 h).2]
  | tickAborts => simp [(after?_tickAborts_iff.1 h).2]

theorem watch_of_after? {signal : Signal} (h : task.after? signal = some next)
    (other : ∀ watch, signal ≠ .tickEnds watch) : next.watch = task.watch :=
  (kept_of_after? h).2.1 other

theorem timer_of_after? {signal : Signal} (h : task.after? signal = some next)
    (other : ∀ now, signal ≠ .tickStarts now) :
    next.due = task.due ∧ next.period = task.period :=
  ⟨(kept_of_after? h).2.2 other, (kept_of_after? h).1⟩

/-- What keeps a task from missing its cancellation: it stops listening only once its handle is
gone, and until it ends, a cancellation waits for it unseen. -/
structure Attentive (task : PeriodicTask) : Prop where
  told : task.channel.unseen = true → task.channel.cancelled = true
  deaf : task.listening = false → task.channel.handleAlive = false
  pending : task.phase ≠ .finished → task.channel.cancelled = true →
    task.channel.unseen = true ∧ task.listening = true

theorem attentive_start (watch : WatchState) (period now : Duration) :
    (start watch period now).value.Attentive :=
  ⟨nofun, nofun, nofun⟩

/-- What a task hears is its cancellation, which ends it, or the end of its handle, which it does
not wait for again. -/
theorem Attentive.hears (a : task.Attentive) (h : Hears task next) :
    task.channel.cancelled = true ∧ next = { task with
        phase := .finished, channel := { task.channel with unseen := false } } ∨
      task.channel.cancelled = false ∧ task.channel.handleAlive = false ∧
        task.listening = true ∧ next = { task with listening := false } := by
  cases h with
  | message waits listens unseen =>
    have cancelled := a.told unseen
    exact .inl ⟨cancelled, if_pos cancelled⟩
  | dropped waits listens unseen gone =>
    refine .inr ⟨?_, gone, listens, rfl⟩
    by_contra cancelled
    have pending := a.pending (by simp [waits]) (by simpa using cancelled)
    simp [unseen] at pending

theorem Attentive.after? (a : task.Attentive) {signal : Signal}
    (h : task.after? signal = some next) : next.Attentive := by
  cases signal with
  | cancel =>
    obtain ⟨alive, rfl⟩ := after?_cancel_iff.1 h
    refine ⟨fun _ => rfl, a.deaf, fun _ _ => ⟨rfl, ?_⟩⟩
    by_contra deaf
    simp [a.deaf (by simpa using deaf)] at alive
  | dropHandle =>
    obtain ⟨-, rfl⟩ := after?_dropHandle_iff.1 h
    exact ⟨a.told, fun _ => rfl, a.pending⟩
  | hears =>
    rcases a.hears (after?_hears_iff.1 h) with ⟨-, rfl⟩ | ⟨running, gone, -, rfl⟩
    · exact ⟨nofun, a.deaf, fun active => absurd rfl active⟩
    · exact ⟨a.told, fun _ => gone, fun _ cancelled => by simp [running] at cancelled⟩
  | tickStarts now =>
    obtain ⟨waits, -, rfl⟩ := after?_tickStarts_iff.1 h
    exact ⟨a.told, a.deaf, fun _ => a.pending (by simp [waits])⟩
  | tickEnds watch =>
    obtain ⟨ticks, rfl⟩ := after?_tickEnds_iff.1 h
    exact ⟨a.told, a.deaf, fun _ => a.pending (by simp [ticks])⟩
  | tickAborts =>
    obtain ⟨-, rfl⟩ := after?_tickAborts_iff.1 h
    exact ⟨a.told, a.deaf, fun active => absurd rfl active⟩

end PeriodicTask

end CredentialRotation
