import CredentialRotation.Proofs.Configuration.RoundTrip
import CredentialRotation.Proofs.Credential.FirstTick
import CredentialRotation.Proofs.Policy.BootValidation
import CredentialRotation.Proofs.Policy.FileBundle
import CredentialRotation.Service.Life

/-!
What a check says about the service. Over files that stand still, a check that finds nothing wrong
means that the service boots and that its first tick publishes the very pair that was checked. A
check that finds something wrong means that one of the two fails, unless there is a trust bundle
that nobody is verified by.
-/
namespace CredentialRotation

namespace Scheduler
variable {task : PeriodicTask} {store : Store} {now limit : Duration}
  {runTick : WatchState → Id (Option (Logged (Option Tick)))}

theorem sleep_value (span : Duration) (s : Scheduler) :
    (s.sleep (m := Id) span runTick).value =
      (runUntil (m := Id) ((settle (m := Id) runTick s).value.tickBound ⟨s.now.nanos + span.nanos⟩)
        ⟨s.now.nanos + span.nanos⟩ runTick (settle (m := Id) runTick s).value).value := rfl

theorem settle_lone_fresh (fresh : task.channel = .fresh) :
    (settle (m := Id) runTick ⟨now, store, [task]⟩).value = ⟨now, store, [task]⟩ := by
  simp [settle, runExpired, PeriodicTask.isCancelled, fresh, CancelChannel.fresh, endCancelled,
    PeriodicTask.after?, CancelChannel.news?, bind, pure]

theorem settle_lone_undue (undue : now.nanos < task.due.nanos) :
    (settle (m := Id) runTick ⟨now, store, [task]⟩).value.store = store := by
  simp [settle, runExpired, endCancelled, undue, bind, pure]

theorem runUntil_lone_undue {fuel : Nat} (undue : limit.nanos ≤ task.due.nanos) :
    (runUntil (m := Id) (fuel + 1) limit runTick ⟨now, store, [task]⟩).value =
      ⟨limit, store, [task]⟩ := by
  have none : nextDue? ⟨now, store, [task]⟩ limit = none := by
    simp [nextDue?, undue]
  rw [runUntil, none]
  rfl

theorem finishTick_lone (waits : task.phase = .waiting) (tick : Logged (Option Tick)) :
    (finishTick ⟨now, store, [task]⟩ 0 task (some tick)).value =
      ⟨task.due, (Refresher.after ⟨task.watch, store⟩ tick.value).store,
        [{ task with
          watch := (Refresher.after ⟨task.watch, store⟩ tick.value).watch
          due := task.nextDue task.due }]⟩ := by
  have started : task.after? (.tickStarts task.due) =
      some { task with phase := .ticking, due := task.nextDue task.due } := by
    simp [PeriodicTask.after?, waits]
  unfold finishTick
  rw [started]
  obtain ⟨outcome, events⟩ := tick
  cases outcome with
  | none => simp [PeriodicTask.after?, waits, Refresher.after]
  | some outcome => simp [PeriodicTask.after?, waits, Refresher.after]

theorem runUntil_lone_due {fuel : Nat} (waits : task.phase = .waiting)
    (due : task.due.nanos < limit.nanos) {tick : Logged (Option Tick)}
    (ticks : runTick task.watch = some tick) :
    (runUntil (m := Id) (fuel + 1) limit runTick ⟨now, store, [task]⟩).value =
      (runUntil (m := Id) fuel limit runTick
        (finishTick ⟨now, store, [task]⟩ 0 task (some tick)).value).value := by
  have next : nextDue? ⟨now, store, [task]⟩ limit = some (0, task) := by
    simp [nextDue?, waits, due]
  rw [runUntil, next, ← ticks]
  rfl

/-- A lone task whose timer has just expired ticks, and then waits for as long as its period. -/
theorem sleep_lone {span : Duration} (waits : task.phase = .waiting) (fresh : task.channel = .fresh)
    (due : task.due.nanos < now.nanos + span.nanos)
    (undue : now.nanos + span.nanos ≤ task.due.nanos + task.period.nanos)
    {tick : Logged (Option Tick)} (ticks : runTick task.watch = some tick) :
    (sleep (m := Id) span runTick ⟨now, store, [task]⟩).value =
      ⟨⟨now.nanos + span.nanos⟩, (Refresher.after ⟨task.watch, store⟩ tick.value).store,
        [{ task with
          watch := (Refresher.after ⟨task.watch, store⟩ tick.value).watch
          due := ⟨task.due.nanos + task.period.nanos⟩ }]⟩ := by
  have next : task.nextDue task.due = ⟨task.due.nanos + task.period.nanos⟩ := by
    simp [PeriodicTask.nextDue]
  obtain ⟨fuel, enough⟩ : ∃ fuel,
      tickBound ⟨now, store, [task]⟩ ⟨now.nanos + span.nanos⟩ = fuel + 1 + 1 :=
    ⟨_, by simp [tickBound]; rfl⟩
  rw [sleep_value, settle_lone_fresh fresh, enough, runUntil_lone_due waits due ticks,
    finishTick_lone waits, next, runUntil_lone_undue undue]

end Scheduler

namespace Service
variable {c : Configuration} {fs : FileSystem}

section Boot
variable {path : String}

theorem boot_of_unconfigured (unconfigured : c.verification.trustBundlePath = none) :
    (boot c fs).outcome = .ok () := by
  simp only [boot, policy?, unconfigured]
  rfl

/-- With a trust bundle, what decides is whether it is needed and gives roots. -/
theorem boot_of_configured (configured : c.verification.trustBundlePath = some path)
    (named : path ≠ "") :
    (boot c fs).outcome = if c.verification.mode.checksChain then
      (BundleSupplier.ofFile path fs).outcome.map fun _ => () else .ok () := by
  let policy : PeerPolicy := .ofSettings c.verification.mode (some path)
  have booted : (boot c fs).outcome = (policy.validateServer fs).outcome := by
    simp only [boot, policy?, configured]
    rfl
  have supplied : policy.bundle = some (.ofFile path) := by
    simp [policy, PeerPolicy.ofSettings, Option.filter, named]
  have mode : policy.mode = c.verification.mode := rfl
  rw [booted, ← mode]
  by_cases checks : policy.mode.checksChain
  · rw [if_pos checks, PeerPolicy.validateServer_outcome (of_decide_eq_true checks),
      PeerPolicy.roots, supplied]
    change Except.map _ (Attempt.outcome (BundleSupplier.ofFile path fs >>= _)) = _
    rw [Attempt.outcome_bind]
    cases gives : (BundleSupplier.ofFile path fs).outcome with
    | error failure => rfl
    | ok anchors =>
      cases anchors with
      | nil => exact absurd rfl (BundleSupplier.ofFile_ne_nil gives)
      | cons anchor anchors => rfl
  · rw [if_neg checks, PeerPolicy.validateServer, if_neg checks]
    rfl

end Boot
section Check

theorem checkPair_value (c : Configuration) (fs : FileSystem) :
    (checkPair c fs).value = (Snapshot.load fs (identityFiles c)).outcome.toOption := rfl

theorem check_value_iff : (check c fs).value = true ↔
    (∃ s, (Snapshot.load fs (identityFiles c)).outcome = .ok s) ∧
      ∀ path, c.verification.trustBundlePath = some path →
        ∃ anchors, (BundleSupplier.ofFile path fs).outcome = .ok anchors := by
  simp only [check, Logged.bind_value, checkPair_value]
  cases (Snapshot.load fs (identityFiles c)).outcome with
  | error failure => exact iff_of_false nofun fun h => nomatch h.1
  | ok s =>
    cases c.verification.trustBundlePath with
    | none => exact iff_of_true rfl ⟨⟨s, rfl⟩, nofun⟩
    | some path =>
      simp only [Except.toOption, checkBundle]
      cases gives : (BundleSupplier.ofFile path fs).outcome with
      | error failure =>
        refine iff_of_false nofun fun h => ?_
        obtain ⟨anchors, same⟩ := h.2 path rfl
        cases gives.symm.trans same
      | ok anchors =>
        refine iff_of_true rfl ⟨⟨s, rfl⟩, ?_⟩
        rintro _ ⟨⟩
        exact ⟨anchors, gives⟩

/-- A check finds nothing wrong if the pair can be loaded and the trust bundle, if there is one,
gives roots. -/
theorem passes_iff : (work c true fs).1 = 0 ↔
    (∃ s, (Snapshot.load fs (identityFiles c)).outcome = .ok s) ∧
      ∀ path, c.verification.trustBundlePath = some path →
        ∃ anchors, (BundleSupplier.ofFile path fs).outcome = .ok anchors := by
  rw [← check_value_iff]
  change (if (check c fs).value then 0 else 1) = 0 ↔ _
  cases (check c fs).value <;> decide

end Check
section FirstTick

/-- The first tick of the service's task. -/
def firstTick (c : Configuration) (fs : FileSystem) : Logged (Option Tick) :=
  let watch := (startTask c ⟨0⟩).value.watch
  Tick.guarded watch.files ((Tick.program watch).run fs)

/-- What the first tick publishes, if anything. -/
def published? (c : Configuration) (fs : FileSystem) : Option Snapshot :=
  (firstTick c fs).value.bind Tick.snapshot?

theorem watch_startTask (c : Configuration) (now : Duration) :
    (startTask c now).value.watch = .fresh (identityFiles c) := rfl

theorem tickOn_fresh (c : Configuration) (fs : FileSystem) :
    tickOn fs (.fresh (identityFiles c)) = some (firstTick c fs) := by
  unfold tickOn firstTick
  simp only [watch_startTask]

theorem firstTick_value (c : Configuration) (fs : FileSystem) :
    (firstTick c fs).value =
      ((Tick.program (.fresh (identityFiles c))).run fs).outcome.toOption := rfl

/-- The first tick publishes nothing but what could be loaded once. -/
theorem load_of_published {s : Snapshot} (publishes : published? c fs = some s) :
    (Snapshot.load fs (identityFiles c)).outcome = .ok s := by
  have course := Tick.firstCourse fs (identityFiles c)
  rw [published?, firstTick_value] at publishes
  generalize ((Tick.program (.fresh (identityFiles c))).run fs).outcome = outcome
    at course publishes
  cases course with
  | keyUnseen unseen => cases publishes
  | chainUnseen seen unseen => cases publishes
  | seen seenKey seenChain =>
    cases loads : (Snapshot.load fs (identityFiles c)).outcome with
    | error failure =>
      rw [loads] at publishes
      cases publishes
    | ok loaded =>
      rw [loads] at publishes
      exact congrArg _ (Option.some.inj publishes)

theorem published_of_load (keyDated : fs.Dated c.identity.keyPath)
    (chainDated : fs.Dated c.identity.certificatesPath) {s : Snapshot}
    (loads : (Snapshot.load fs (identityFiles c)).outcome = .ok s) : published? c fs = some s := by
  let files := identityFiles c
  have dated : fs.Dated files.key ∧ fs.Dated files.certificates := ⟨keyDated, chainDated⟩
  obtain ⟨⟨key, seenKey⟩, chain, seenChain⟩ := Refresher.seen_of_load dated.1 dated.2 loads
  rw [published?, firstTick_value,
    Tick.outcome_of_opened (w := .fresh (identityFiles c)) seenKey seenChain rfl]
  change ((Snapshot.load fs (identityFiles c)).outcome.map _).toOption.bind _ = _
  rw [loads]
  rfl

theorem startTask_value (wound : c.identity.refreshMillis ≠ 0) (now : Duration) :
    (startTask c now).value =
      ⟨.fresh (identityFiles c), c.refreshInterval, now, .waiting, .fresh, true⟩ := by
  have positive : c.refreshInterval.nanos ≠ 0 := by
    simpa [Configuration.refreshInterval, Duration.ofMillis, ← UInt64.toNat_inj] using wound
  simp [startTask, PeriodicTask.start, PeriodicTask.effectivePeriod, positive]

/-- A service that is asked to stop after its first tick leaves what that tick published. -/
theorem live_snapshot? (wound : c.identity.refreshMillis ≠ 0) :
    (live c fs).value.snapshot? = published? c fs := by
  have long : 1 < c.refreshInterval.nanos := by
    have : c.identity.refreshMillis.toNat ≠ 0 := by simpa [← UInt64.toNat_inj] using wound
    simp only [Configuration.refreshInterval, Duration.ofMillis]
    omega
  have left : (live c fs).value =
      (Refresher.after ⟨.fresh (identityFiles c), .empty⟩ (firstTick c fs).value).store := by
    rw [live, Logged.bind_value, Logged.bind_value, Logged.bind_value, Logged.bind_value,
      startTask_value wound, Scheduler.sleep_lone rfl rfl Nat.one_pos (by simpa using long.le)
        (tickOn_fresh c fs), Logged.bind_value, Logged.bind_value, Logged.pure_value]
    -- The second tick is not due when the service is asked to stop.
    exact Scheduler.settle_lone_undue
      (by simpa [PeriodicTask.after?, CancelChannel.fresh] using long)
  rw [left, published?]
  cases (firstTick c fs).value with
  | none => rfl
  | some tick => cases tick <;> rfl

end FirstTick

/-- The first tick publishes the pair that a check decodes, and the service keeps it. -/
def PublishesChecked (c : Configuration) (fs : FileSystem) : Prop :=
  ∃ s, (checkPair c fs).value = some s ∧ published? c fs = some s ∧
    (live c fs).value.snapshot? = some s

/-- What a check says about the service over the same files. -/
structure Foretold (c : Configuration) (fs : FileSystem) : Prop where
  boots : (work c true fs).1 = 0 → (boot c fs).outcome = .ok ()
  publishes : (work c true fs).1 = 0 → fs.Dated c.identity.keyPath →
    fs.Dated c.identity.certificatesPath → PublishesChecked c fs
  /-- A trust bundle is of no concern to a service that verifies nobody by it. -/
  fails : (work c true fs).1 = 1 →
    c.verification.trustBundlePath = none ∨ c.verification.mode.checksChain = true →
      (∃ failure, (boot c fs).outcome = .error failure) ∨
        published? c fs = none ∧ (live c fs).value.snapshot? = none

theorem Foretold.of_valid (valid : c.validate = .ok ()) : Foretold c fs := by
  have left : (live c fs).value.snapshot? = published? c fs :=
    live_snapshot? (Configuration.validate_eq_ok_iff.1 valid).2.1
  refine ⟨?_, ?_, ?_⟩
  · intro passes
    obtain ⟨-, gives⟩ := passes_iff.1 passes
    cases configured : c.verification.trustBundlePath with
    | none => exact boot_of_unconfigured configured
    | some path =>
      obtain ⟨anchors, gives⟩ := gives path configured
      rw [boot_of_configured configured (Configuration.bundlePath_ne_empty valid configured),
        gives]
      exact ite_self _
  · intro passes keyDated chainDated
    obtain ⟨⟨s, loads⟩, -⟩ := passes_iff.1 passes
    have publishes := published_of_load keyDated chainDated loads
    exact ⟨s, by rw [checkPair_value, loads]; rfl, publishes, left.trans publishes⟩
  · intro fails concerns
    have fails : ¬ (work c true fs).1 = 0 := by
      rw [fails]
      exact Nat.one_ne_zero
    by_cases loads : ∃ s, (Snapshot.load fs (identityFiles c)).outcome = .ok s
    · -- Then the trust bundle is at fault, and it is needed.
      obtain ⟨path, configured, useless⟩ : ∃ path, c.verification.trustBundlePath = some path ∧
          ¬ ∃ anchors, (BundleSupplier.ofFile path fs).outcome = .ok anchors := by
        simpa using fun gives => fails (passes_iff.2 ⟨loads, gives⟩)
      have checks : c.verification.mode.checksChain = true :=
        concerns.resolve_left (by rw [configured]; nofun)
      refine .inl ?_
      rw [boot_of_configured configured (Configuration.bundlePath_ne_empty valid configured),
        if_pos checks]
      cases gives : (BundleSupplier.ofFile path fs).outcome with
      | ok anchors => exact absurd ⟨anchors, gives⟩ useless
      | error failure => exact ⟨failure, rfl⟩
    · have nothing : published? c fs = none :=
        Option.eq_none_iff_forall_ne_some.2 fun s publishes =>
          loads ⟨s, load_of_published publishes⟩
      exact .inr ⟨nothing, left.trans nothing⟩

/-- A check foretells what the service comes to. Where it finds nothing wrong the service boots, and
its first tick publishes the pair that was checked, provided that files which can be read have a
modification time, as all files of a tree have. Where it finds something wrong, and that is of any
concern to the service, booting fails or the first tick publishes nothing. -/
theorem check_foretells_service (accepted : c.Accepted) :
    (∀ fs, Foretold c fs) ∧
      ∀ disk : Disk, (work c true disk.fileSystem).1 = 0 → PublishesChecked c disk.fileSystem := by
  have foretold (fs : FileSystem) : Foretold c fs := .of_valid accepted.valid
  refine ⟨foretold, ?_⟩
  intro disk passes
  exact (foretold disk.fileSystem).publishes passes (disk.dated _) (disk.dated _)

/-- A key and a chain that stand in two files, and no files at all. -/
theorem check_foretells_service_pem :
    ∃ (c : Configuration) (fs : FileSystem) (s : Snapshot), c.Accepted ∧
      (work c true fs).1 = 0 ∧ (boot c fs).outcome = .ok () ∧
      fs.Dated c.identity.keyPath ∧ fs.Dated c.identity.certificatesPath ∧
      (checkPair c fs).value = some s ∧ published? c fs = some s ∧
      (live c fs).value.snapshot? = some s ∧
      (work c true Disk.empty.fileSystem).1 = 1 ∧ c.verification.trustBundlePath = none ∧
      ((∃ failure, (boot c Disk.empty.fileSystem).outcome = .error failure) ∨
        published? c Disk.empty.fileSystem = none ∧
          (live c Disk.empty.fileSystem).value.snapshot? = none) := by
  let k := KeyFile.neighbours ⟨1, 0⟩
  let chain := ChainFile.least false ⟨1, 0⟩
  let plain : Configuration := { Configuration.initial with verification := ⟨.full, none⟩ }
  have valid : plain.validate = .ok () := eq_ok_of_toOption (by decide +kernel)
  obtain ⟨x, y, accepted⟩ := Configuration.accepted_of_valid valid
    Configuration.initial_rate_fits Configuration.initial_rate_fits
  let c := plain.withRates x y
  let fs : FileSystem :=
    ⟨fun _ => .ok ⟨1, 0⟩, fun path => .ok (if path = "key.pem" then k.data else chain.data)⟩
  have dated (path : String) : fs.Dated path := fun _ _ => ⟨⟨1, 0⟩, rfl⟩
  have loads : (Snapshot.load fs (identityFiles c)).outcome = .ok (k.pair chain) :=
    k.decode_pair chain
  have passes : (work c true fs).1 = 0 := passes_iff.2 ⟨⟨_, loads⟩, nofun⟩
  -- A check does not look at the rates.
  have fails : (work c true Disk.empty.fileSystem).1 = 1 :=
    show (work plain true Disk.empty.fileSystem).1 = 1 by decide +kernel
  have foretold := (check_foretells_service accepted).1
  obtain ⟨s, checked, published, left⟩ := (foretold fs).publishes passes (dated _) (dated _)
  exact ⟨c, fs, s, accepted, passes, (foretold fs).boots passes, dated _, dated _, checked,
    published, left, fails, rfl, (foretold Disk.empty.fileSystem).fails fails (.inl rfl)⟩

end Service
end CredentialRotation
