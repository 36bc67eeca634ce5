import CredentialRotation.Service.Life
import Std.Async.Signal
import Std.Time

/-!
The program on a machine: its files, its console, its clock, and the signal that stops it. What is
done with them is decided elsewhere.
-/
namespace CredentialRotation.Machine

private def failureOf : IO.Error → FileFailure
  | .noFileOrDirectory .. => .notFound
  | .inappropriateType _ 20 _ => .notDirectory
  | .inappropriateType _ 21 _ => .isDirectory
  | .invalidArgument _ 36 _ => .nameTooLong
  | error => .other (toString error)

/-- Does something with a file, whose name must not have a NUL in it. -/
private def withFile {α : Type} (path : String) (action : IO α) : IO (Except FileFailure α) := do
  if path.toList.contains '\x00' then return .error .nulInName
  match ← action.toBaseIO with
  | .ok a => return .ok a
  | .error error => return .error (failureOf error)

def read (path : String) : IO (Except FileFailure Octets) :=
  withFile path do return (← IO.FS.readBinFile path).toList

def write (path : String) (data : Octets) : IO (Except FileFailure Unit) :=
  withFile path (IO.FS.writeBinFile path data.toByteArray)

/-- Some files as they are now. -/
def standing (paths : List String) : IO FileSystem := do
  let contents ← paths.mapM fun path => return (path, ← read path)
  return ⟨fun _ => .ok ⟨0, 0⟩, fun path => (contents.lookup path).getD (.error .notFound)⟩

/-- What files held when they were last looked at, and when they were first seen to hold it. -/
abbrev Sightings := IO.Ref (List (String × Octets × Moment))

/-- A file counts as modified when it is first seen to hold something else. -/
def modified (seen : Sightings) (path : String) : IO (Except FileFailure Moment) := do
  match ← read path with
  | .error failure => return .error failure
  | .ok data =>
    match (← seen.get).lookup path with
    | some (old, moment) => if old = data then return .ok moment
    | none => pure ()
    let moment : Moment := ⟨0, ← IO.monoNanosNow⟩
    seen.modify fun files => (path, data, moment) :: files.filter (·.1 ≠ path)
    return .ok moment

def printLines (lines : List ConsoleLine) : IO Unit :=
  lines.forM fun
    | .out text => IO.println text
    | .err text => IO.eprintln text

private def timeText : IO String :=
  return (← Std.Time.PlainDateTime.now).format "uuuu-MM-dd HH:mm:ss.SSSSSSSSS"

/-- Writes the events that the threshold admits, with the time in front of them. -/
def log (threshold : Threshold) (events : List Event) : IO Unit :=
  (threshold.select events).forM fun e => do IO.println s!"{← timeText} {e.consoleText}"

/-- A service that has booted. -/
structure Running where
  task : PeriodicTask
  store : Store
  loadedAt : String
  nextReport : Duration

/-- One tick of the task on the machine's files. -/
def tick (threshold : Threshold) (seen : Sightings) (now : Duration) (r : Running) :
    IO Running := do
  let started := (r.task.after? (.tickStarts now)).getD r.task
  let attempt ← (Tick.program r.task.watch).runWith (modified seen) read
  let outcome := Tick.guarded r.task.watch.files attempt
  log threshold outcome.events
  let refreshed := match outcome.value with
    | some t => Refresher.apply ⟨r.task.watch, r.store⟩ t
    | none => ⟨r.task.watch, r.store⟩
  let reloaded := outcome.value.any (·.kind.isReloaded)
  let loadedAt ← if reloaded then timeText else pure r.loadedAt
  let task := (started.after? (.tickEnds refreshed.watch)).getD started
  return { r with task, store := refreshed.store, loadedAt }

/-- Does what is due, over and over, until the signal has come. -/
partial def live (c : Configuration) (threshold : Threshold) (seen : Sightings)
    (signal : Std.Async.AsyncTask Int) (r : Running) : IO Unit := do
  let now : Duration := ⟨← IO.monoNanosNow⟩
  if ← IO.hasFinished signal then return
  else if r.task.due.nanos ≤ now.nanos then
    live c threshold seen signal (← tick threshold seen now r)
  else if r.nextReport.nanos ≤ now.nanos then
    log threshold [Service.statistics ⟨r.store⟩ r.loadedAt]
    live c threshold seen signal { r with nextReport := ⟨now.nanos + c.consoleInterval.nanos⟩ }
  else
    IO.sleep 50
    live c threshold seen signal r

/-- Boots and lives until the program is interrupted. -/
def serve (c : Configuration) (threshold : Threshold) : IO UInt32 := do
  let booted := Service.boot c (← standing c.verification.trustBundlePath.toList)
  log threshold booted.events
  match booted.outcome with
  | .error failure =>
    IO.eprintln (Service.bootFailureText failure)
    return 1
  | .ok () =>
    let signal ← (← Std.Async.Signal.Waiter.mk .sigint false).wait
    let now : Duration := ⟨← IO.monoNanosNow⟩
    let task := Service.startTask c now
    log threshold (task.events ++ [.consoleStarting c.consoleInterval])
    live c threshold (← IO.mkRef []) signal ⟨task.value, .empty, "", now⟩
    log threshold (Service.stopping ++ [.refreshCancelled] ++ Service.stopped)
    return 0

/-- Checks the identity once. -/
def check (c : Configuration) (threshold : Threshold) : IO UInt32 := do
  let files := Service.identityFiles c
  let paths := [files.key, files.certificates] ++ c.verification.trustBundlePath.toList
  let checked := Service.check c (← standing paths)
  log threshold checked.events
  return if checked.value then 0 else 1

def run (o : Service.Options) : IO UInt32 := do
  let loading ← Configuration.load read write o.path o.create
  printLines loading.lines
  match loading.outcome with
  | .error _ => return 101
  | .ok c =>
    match Threshold.ofWord c.logLevel with
    | .error failure =>
      IO.eprintln failure.message
      return 101
    | .ok threshold =>
      log threshold Service.greeting
      if o.checkOnly then check c threshold else serve c threshold

private def usage : String :=
  "Usage: identity-reloader [--create-config] [--config <CONFIG>] [--check]"

def main (words : List String) : IO UInt32 := do
  match Service.Request.ofWords words with
  | .run o => run o
  | .help =>
    IO.println usage
    return 0
  | .version =>
    IO.println "identity-reloader 0.1.0"
    return 0
  | .misuse =>
    IO.eprintln usage
    return 2

end CredentialRotation.Machine

def main (words : List String) : IO UInt32 :=
  CredentialRotation.Machine.main words
