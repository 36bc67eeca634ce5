import CredentialRotation.Credential.Refresh

/-!
Periodic refreshing: a task that waits for its timer or for its handle. Between two ticks either
may wake it; a tick once started runs to its end.
-/
namespace CredentialRotation

/-- The channel by which a handle tells its task to end. -/
structure CancelChannel where
  cancelled : Bool
  unseen : Bool
  handleAlive : Bool
  deriving DecidableEq, Repr

namespace CancelChannel

/-- What a task can hear of its handle. -/
inductive News
  | message
  | dropped
  deriving DecidableEq, Repr

/-- Nothing was sent yet, and the handle is there. -/
def fresh : CancelChannel := ⟨false, false, true⟩

/-- The handle asks for the end. -/
def send (c : CancelChannel) : CancelChannel := { c with cancelled := true, unseen := true }

def dropHandle (c : CancelChannel) : CancelChannel := { c with handleAlive := false }

/-- What there is to hear, if anything. A message is heard once, and before the handle's end. -/
def news? (c : CancelChannel) : Option (News × CancelChannel) :=
  if c.unseen then some (.message, { c with unseen := false })
  else if c.handleAlive then none
  else some (.dropped, c)

end CancelChannel

/-- Where a task is. -/
inductive Phase
  | waiting
  | ticking
  | finished
  deriving DecidableEq, Repr

/-- A task, with the moment at which its timer expires next. It listens to its handle until it has
heard that the handle is gone. A tick takes the watch state with it and brings one back. -/
structure PeriodicTask where
  watch : WatchState
  period : Duration
  due : Duration
  phase : Phase
  channel : CancelChannel
  listening : Bool
  deriving DecidableEq, Repr

namespace PeriodicTask

/-- A period of zero is taken as a millisecond. -/
def effectivePeriod (period : Duration) : Logged Duration := do
  if period.nanos = 0 then
    Logged.report .zeroPeriod
    return .ofMillis 1
  else return period

/-- A task that was just started; its first tick is due at once. -/
def start (watch : WatchState) (period now : Duration) : Logged PeriodicTask := do
  let period ← effectivePeriod period
  return ⟨watch, period, now, .waiting, .fresh, true⟩

/-- How late a tick may start without moving those after it. -/
def tolerance : Duration := .ofMillis 5

/-- When the timer that is found expired at a moment expires next. After a late tick the period
counts from its start. -/
def nextDue (task : PeriodicTask) (now : Duration) : Duration :=
  if now.nanos - task.due.nanos > tolerance.nanos then ⟨now.nanos + task.period.nanos⟩
  else ⟨task.due.nanos + task.period.nanos⟩

/-- What can happen to a task. -/
inductive Signal
  | cancel
  | dropHandle
  | hears
  | tickStarts (now : Duration)
  | tickEnds (watch : WatchState)
  | tickAborts
  deriving DecidableEq, Repr

/-- What a task does when it hears of its handle. A handle that is gone is not listened to. -/
def onNews (task : PeriodicTask) : CancelChannel.News → PeriodicTask
  | .message => if task.channel.cancelled then { task with phase := .finished } else task
  | .dropped => { task with listening := false }

/-- The task after a signal, if the signal can reach it. While the task waits both news of its
handle and an expired timer may wake it; of two that are ready either may come first. -/
def after? (task : PeriodicTask) : Signal → Option PeriodicTask
  | .cancel =>
    if task.channel.handleAlive then some { task with channel := task.channel.send } else none
  | .dropHandle =>
    if task.channel.handleAlive then some { task with channel := task.channel.dropHandle } else none
  | .hears =>
    if task.phase = .waiting ∧ task.listening then
      task.channel.news?.map fun (news, channel) => { task with channel }.onNews news
    else none
  | .tickStarts now =>
    if task.phase = .waiting ∧ task.due.nanos ≤ now.nanos then
      some { task with phase := .ticking, due := task.nextDue now }
    else none
  | .tickEnds watch =>
    if task.phase = .ticking then some { task with phase := .waiting, watch } else none
  | .tickAborts => if task.phase = .ticking then some { task with phase := .finished } else none

def isCancelled (task : PeriodicTask) : Bool := task.channel.cancelled

def isFinished (task : PeriodicTask) : Bool := task.phase = .finished

/-- The handle of a task as text. -/
def shownHandle (task : PeriodicTask) : String :=
  Shown.record "RefreshHandle" [("cancelled", Shown.bool task.isCancelled),
    ("finished", Shown.bool task.isFinished)]

end PeriodicTask

/-- Tasks that share a store, under a clock that moves only while someone sleeps. -/
structure Scheduler where
  now : Duration
  store : Store
  tasks : List PeriodicTask
  deriving DecidableEq, Repr

namespace Scheduler

/-- Waiting tasks that were cancelled end. -/
def endCancelled (s : Scheduler) : Logged Scheduler :=
  let heard (t : PeriodicTask) : PeriodicTask := (t.after? .hears).getD t
  let ends (t : PeriodicTask) : Bool := !t.isFinished && (heard t).isFinished
  ⟨{ s with tasks := s.tasks.map heard }, (s.tasks.filter ends).map fun _ => .refreshCancelled⟩

/-- The index of the waiting task whose timer expires first, and before the given moment. -/
def nextDue? (s : Scheduler) (limit : Duration) : Option (Nat × PeriodicTask) :=
  let ready := s.tasks.zipIdx.filter fun (t, _) =>
    t.phase = .waiting && decide (t.due.nanos < limit.nanos)
  (ready.foldl (fun best (t, i) =>
    match best with
    | some (_, b) => if t.due.nanos < b.due.nanos then some (i, t) else best
    | none => some (i, t)) none)

/-- One tick of the task at an index, at the moment it is due. The tick came to `tick`, or was
aborted. -/
def finishTick (s : Scheduler) (i : Nat) (task : PeriodicTask)
    (tick : Option (Logged (Option Tick))) : Logged Scheduler := do
  let started := (task.after? (.tickStarts task.due)).getD task
  let finish (s : Scheduler) (signal : PeriodicTask.Signal) : Scheduler :=
    { s with now := task.due, tasks := s.tasks.set i ((started.after? signal).getD started) }
  match tick with
  | none =>
    Logged.report .tickAborted
    return finish s .tickAborts
  | some tick =>
    match ← tick with
    | none => return finish s (.tickEnds task.watch)
    | some outcome =>
      let r := Refresher.apply ⟨task.watch, s.store⟩ outcome
      return finish { s with store := r.store } (.tickEnds r.watch)

/-- Runs the ticks of cancelled tasks whose timers had expired when they were cancelled. -/
def runExpired {m : Type → Type} [Monad m]
    (runTick : WatchState → m (Option (Logged (Option Tick)))) (s : Scheduler) :
    m (Logged Scheduler) :=
  let expired := s.tasks.zipIdx.filter fun (t, _) =>
    t.isCancelled && t.phase = .waiting && decide (t.due.nanos ≤ s.now.nanos)
  expired.foldlM (fun done (task, i) => do
    let next := finishTick done.value i task (← runTick task.watch)
    return ⟨next.value, done.events ++ next.events⟩) (pure s)

/-- Waiting tasks that were cancelled end, after a tick that was due by then. -/
def settle {m : Type → Type} [Monad m]
    (runTick : WatchState → m (Option (Logged (Option Tick)))) (s : Scheduler) :
    m (Logged Scheduler) := do
  let ticked ← s.runExpired runTick
  let ended := ticked.value.endCancelled
  return ⟨ended.value, ticked.events ++ ended.events⟩

/-- Runs the ticks that are due before `limit`, each by `runTick`. -/
def runUntil {m : Type → Type} [Monad m] (fuel : Nat) (limit : Duration)
    (runTick : WatchState → m (Option (Logged (Option Tick)))) (s : Scheduler) :
    m (Logged Scheduler) :=
  match fuel with
  | 0 => pure (pure s)
  | fuel + 1 =>
    match s.nextDue? limit with
    | none => pure (pure { s with now := limit })
    | some (i, task) => do
      let tick ← runTick task.watch
      let next := finishTick s i task tick
      let rest ← runUntil fuel limit runTick next.value
      return ⟨rest.value, next.events ++ rest.events⟩

/-- More ticks than can be due before `limit`. -/
def tickBound (s : Scheduler) (limit : Duration) : Nat :=
  s.tasks.foldl (fun n t => n + (limit.nanos - t.due.nanos) / t.period.nanos + 2) 1

/-- Lets time pass: cancelled tasks end, then ticks run as they fall due. -/
def sleep {m : Type → Type} [Monad m] (span : Duration)
    (runTick : WatchState → m (Option (Logged (Option Tick)))) (s : Scheduler) :
    m (Logged Scheduler) := do
  let ended ← s.settle runTick
  let limit : Duration := ⟨s.now.nanos + span.nanos⟩
  let rest ← runUntil (ended.value.tickBound limit) limit runTick ended.value
  return ⟨rest.value, ended.events ++ rest.events⟩

end Scheduler
end CredentialRotation
