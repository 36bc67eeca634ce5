import CredentialRotation.Configuration.Loading
import CredentialRotation.Credential.Periodic
import CredentialRotation.Service.Boot
import CredentialRotation.Service.Check
import CredentialRotation.Service.Options
import CredentialRotation.Threshold

/-!
A run of the program from its start to its end, over a tree of files that nobody else changes. A
service that boots lives until someone asks it to stop, here after its first tick.
-/
namespace CredentialRotation.Service

/-- What the program says before it does anything. -/
def greeting : List Event := [.loggingInitialized, .version]

/-- The service's task for its identity, just started. -/
def startTask (c : Configuration) (now : Duration) : Logged PeriodicTask := do
  let files := identityFiles c
  Logged.report .refreshStarting
  Logged.report (.watching files c.refreshInterval)
  PeriodicTask.start (.fresh files) c.refreshInterval now

/-- One tick on files that stand still. -/
def tickOn (fs : FileSystem) (watch : WatchState) : Id (Option (Logged (Option Tick))) :=
  some (Tick.guarded watch.files ((Tick.program watch).run fs))

def cancelAll (s : Scheduler) : Scheduler :=
  { s with tasks := s.tasks.map fun (t : PeriodicTask) => (t.after? .cancel).getD t }

/-- What is said while the service stops, before its task ends and after that. -/
def stopping : List Event := [.shutdownRequested, .consoleStopping]

def stopped : List Event := [.shutdownCompleted]

/-- A service that has booted: its first tick is due at once, and then it is asked to stop. -/
def live (c : Configuration) (fs : FileSystem) : Logged Store := do
  let task ← startTask c ⟨0⟩
  Logged.report (.consoleStarting c.consoleInterval)
  let scheduler : Scheduler := ⟨⟨0⟩, .empty, [task]⟩
  let ticked : Scheduler ← scheduler.sleep (m := Id) ⟨1⟩ (tickOn fs)
  stopping.forM Logged.report
  let ended : Scheduler ← (cancelAll ticked).settle (m := Id) (tickOn fs)
  stopped.forM Logged.report
  return ended.store

/-- What the console is told of the identity now and then. -/
def statistics (m : IdentityManager) (loadedAt : String) : Event :=
  match m.currentSnapshot with
  | .ok s => .statistics s.leaf.serialText s.leaf.subject.text s.chain.size loadedAt
  | .error failure => .noStatistics failure

/-- How a run of the program ends. -/
structure Ending where
  exitCode : Nat
  lines : List ConsoleLine
  deriving DecidableEq, Repr

/-- Checks, or boots and lives. A failed boot is told on the other stream as well. -/
def work (c : Configuration) (checkOnly : Bool) (fs : FileSystem) :
    Nat × List Event × List ConsoleLine :=
  if checkOnly then
    let checked := check c fs
    (if checked.value then 0 else 1, checked.events, [])
  else
    let booted := boot c fs
    match booted.outcome with
    | .ok () => (0, booted.events ++ (live c fs).events, [])
    | .error failure => (1, booted.events, [.err (bootFailureText failure)])

/-- Runs the program. Without a configuration, or with one whose level of logging is unknown, it
ends before it has begun. -/
def run (o : Options) : StateM Disk Ending := do
  let loading ← Configuration.loadFrom o.path o.create
  match loading.outcome with
  | .error _ => return ⟨101, loading.lines⟩
  | .ok c =>
    match Threshold.ofWord c.logLevel with
    | .error failure => return ⟨101, loading.lines ++ [.err failure.message]⟩
    | .ok threshold =>
      let (exitCode, events, last) := work c o.checkOnly (← get).fileSystem
      let written := (threshold.select (greeting ++ events)).map fun e => .out e.consoleText
      return ⟨exitCode, loading.lines ++ written ++ last⟩

end CredentialRotation.Service
