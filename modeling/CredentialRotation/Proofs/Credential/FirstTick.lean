import CredentialRotation.Proofs.Credential.Site
import CredentialRotation.Proofs.Files.Disk

/-!
The first tick of a refresher, over files that stand still. Its gate is open, so that it comes to
what loading the pair once comes to: the same snapshot, or the same failure.
-/
namespace CredentialRotation

namespace Snapshot
variable {fs : FileSystem} {files : IdentityFiles} {s : Snapshot}

/-- Whatever is loaded once is what the two files hold. -/
theorem reads_of_load (loads : (load fs files).outcome = .ok s) :
    ∃ keyText chainText, fs.read files.key = .ok keyText ∧
      fs.read files.certificates = .ok chainText ∧ (decode keyText chainText).outcome = .ok s := by
  simp only [load, loadProgram, FileProgram.run] at loads
  cases readKey : fs.read files.key with
  | error cause =>
    rw [readKey] at loads
    cases loads
  | ok keyText =>
    simp only [readKey, FileProgram.run] at loads
    cases readChain : fs.read files.certificates with
    | error cause =>
      rw [readChain] at loads
      cases loads
    | ok chainText =>
      rw [readChain] at loads
      exact ⟨keyText, chainText, rfl, rfl, loads⟩

end Snapshot

namespace Tick
variable {fs : FileSystem} {w : WatchState}

/-- Behind an open gate a tick loads the pair once. -/
theorem outcome_of_opened {key chain : Moment} (seenKey : fs.modified w.files.key = .ok key)
    (seenChain : fs.modified w.files.certificates = .ok chain)
    (gate : w.bothChanged key chain = true) :
    ((program w).run fs).outcome =
      (Snapshot.load fs w.files).outcome.map (Tick.reloaded key chain) := by
  simp only [program, FileProgram.run, seenKey, seenChain, gate, Bool.not_true, Bool.false_eq_true,
    if_false, Snapshot.load, Snapshot.loadProgram]
  cases fs.read w.files.key with
  | error cause => rfl
  | ok keyText =>
    simp only [FileProgram.run]
    cases fs.read w.files.certificates with
    | error cause => rfl
    | ok chainText => exact load_outcome w.files key chain keyText chainText

/-- The three courses of a first tick, by what can be seen of the two files. -/
inductive FirstCourse (fs : FileSystem) (files : IdentityFiles) :
    Except CredentialFailure Tick → Prop
  | keyUnseen {cause : FileFailure} (unseen : fs.modified files.key = .error cause) :
    FirstCourse fs files (.error (.io files.key cause))
  | chainUnseen {key : Moment} {cause : FileFailure} (seen : fs.modified files.key = .ok key)
      (unseen : fs.modified files.certificates = .error cause) :
    FirstCourse fs files (.error (.io files.certificates cause))
  | seen {key chain : Moment} (seenKey : fs.modified files.key = .ok key)
      (seenChain : fs.modified files.certificates = .ok chain) :
    FirstCourse fs files ((Snapshot.load fs files).outcome.map (Tick.reloaded key chain))

theorem firstCourse (fs : FileSystem) (files : IdentityFiles) :
    FirstCourse fs files ((program (.fresh files)).run fs).outcome := by
  cases seenKey : fs.modified files.key with
  | error cause =>
    have outcome : ((program (.fresh files)).run fs).outcome = .error (.io files.key cause) := by
      simp only [program, FileProgram.run, WatchState.fresh, seenKey]
      rfl
    rw [outcome]
    exact .keyUnseen seenKey
  | ok key =>
    cases seenChain : fs.modified files.certificates with
    | error cause =>
      have outcome : ((program (.fresh files)).run fs).outcome =
          .error (.io files.certificates cause) := by
        simp only [program, FileProgram.run, WatchState.fresh, seenKey, seenChain]
        rfl
      rw [outcome]
      exact .chainUnseen seenKey seenChain
    | ok chain =>
      rw [outcome_of_opened (w := .fresh files) seenKey seenChain rfl]
      exact .seen seenKey seenChain

end Tick

/-- What a tick over files that stand still tells its caller, and the refresher it leaves. -/
def Refresher.tickOver (r : Refresher) (fs : FileSystem) :
    Except CredentialFailure TickKind × Refresher :=
  let outcome := ((Tick.program r.watch).run fs).outcome
  (outcome.map Tick.kind, r.after outcome.toOption)

namespace Refresher
variable {fs : FileSystem} {files : IdentityFiles}

/-- A pair that can be loaded can be looked at, if that goes for all that can be read. -/
theorem seen_of_load (keyDated : fs.Dated files.key) (chainDated : fs.Dated files.certificates)
    {s : Snapshot} (loads : (Snapshot.load fs files).outcome = .ok s) :
    (∃ moment, fs.modified files.key = .ok moment) ∧
      ∃ moment, fs.modified files.certificates = .ok moment := by
  obtain ⟨keyText, chainText, readKey, readChain, -⟩ := Snapshot.reads_of_load loads
  exact ⟨keyDated keyText readKey, chainDated chainText readChain⟩

/-- A first tick that sees both files tells of loading them once, and stores what was loaded. -/
theorem tickOver_of_seen (store : Store) (seenKey : ∃ moment, fs.modified files.key = .ok moment)
    (seenChain : ∃ moment, fs.modified files.certificates = .ok moment) :
    (tickOver ⟨.fresh files, store⟩ fs).1 =
        (Snapshot.load fs files).outcome.map (fun _ => .reloaded) ∧
      ∀ s, (Snapshot.load fs files).outcome = .ok s →
        (tickOver ⟨.fresh files, store⟩ fs).2.store = store.set s := by
  obtain ⟨key, seenKey⟩ := seenKey
  obtain ⟨chain, seenChain⟩ := seenChain
  have outcome : ((Tick.program (.fresh files)).run fs).outcome =
      (Snapshot.load fs files).outcome.map (Tick.reloaded key chain) :=
    Tick.outcome_of_opened (w := .fresh files) seenKey seenChain rfl
  unfold tickOver
  rw [outcome]
  cases (Snapshot.load fs files).outcome with
  | error failure => exact ⟨rfl, nofun⟩
  | ok s => exact ⟨rfl, fun s' same => congrArg store.set (Except.ok.inj same)⟩

/-- A first tick that reloads has seen both files. -/
theorem seen_of_reloaded {store : Store}
    (reloads : (tickOver ⟨.fresh files, store⟩ fs).1 = .ok .reloaded) :
    (∃ moment, fs.modified files.key = .ok moment) ∧
      ∃ moment, fs.modified files.certificates = .ok moment := by
  have course := Tick.firstCourse fs files
  unfold tickOver at reloads
  generalize ((Tick.program (.fresh files)).run fs).outcome = outcome at course reloads
  cases course with
  | keyUnseen unseen => cases reloads
  | chainUnseen seen unseen => cases reloads
  | seen seenKey seenChain => exact ⟨⟨_, seenKey⟩, _, seenChain⟩

/-- If what can be read can also be looked at, a refresher that has loaded nothing reloads exactly
if the pair can be loaded once, and then its store holds that snapshot. If both files can be looked
at, the two also fail alike. -/
theorem first_tick_loads_once (store : Store) (keyDated : fs.Dated files.key)
    (chainDated : fs.Dated files.certificates) :
    ((∃ s, (Snapshot.load fs files).outcome = .ok s) ↔
        (tickOver ⟨.fresh files, store⟩ fs).1 = .ok .reloaded) ∧
      (∀ s, (Snapshot.load fs files).outcome = .ok s →
        (tickOver ⟨.fresh files, store⟩ fs).2.store.snapshot? = some s) ∧
      ((∃ moment, fs.modified files.key = .ok moment) →
        (∃ moment, fs.modified files.certificates = .ok moment) →
          ∀ failure, (Snapshot.load fs files).outcome = .error failure ↔
            (tickOver ⟨.fresh files, store⟩ fs).1 = .error failure) := by
  refine ⟨⟨?_, ?_⟩, ?_, ?_⟩
  · rintro ⟨s, loads⟩
    obtain ⟨seenKey, seenChain⟩ := seen_of_load keyDated chainDated loads
    rw [(tickOver_of_seen store seenKey seenChain).1, loads]
    rfl
  · intro reloads
    obtain ⟨seenKey, seenChain⟩ := seen_of_reloaded reloads
    rw [(tickOver_of_seen store seenKey seenChain).1] at reloads
    cases loads : (Snapshot.load fs files).outcome with
    | ok s => exact ⟨s, rfl⟩
    | error failure =>
      rw [loads] at reloads
      cases reloads
  · intro s loads
    obtain ⟨seenKey, seenChain⟩ := seen_of_load keyDated chainDated loads
    rw [(tickOver_of_seen store seenKey seenChain).2 s loads]
    rfl
  · intro seenKey seenChain failure
    rw [(tickOver_of_seen store seenKey seenChain).1]
    cases (Snapshot.load fs files).outcome with
    | ok s => exact iff_of_false nofun nofun
    | error other => exact ⟨congrArg _, fun same => congrArg _ (Except.error.inj same)⟩

/-- A key and a chain that stand in two files, and an empty chain in place of the other. -/
theorem first_tick_loads_once_pem :
    ∃ (fs broken : FileSystem) (s : Snapshot),
      (∀ path, fs.Dated path) ∧ (Snapshot.load fs pemFiles).outcome = .ok s ∧
      (tickOver ⟨.fresh pemFiles, .empty⟩ fs).1 = .ok .reloaded ∧
      (tickOver ⟨.fresh pemFiles, .empty⟩ fs).2.store.snapshot? = some s ∧
      (∀ path, broken.Dated path) ∧
      (Snapshot.load broken pemFiles).outcome = .error .emptyChain ∧
      (tickOver ⟨.fresh pemFiles, .empty⟩ broken).1 = .error .emptyChain := by
  let k := KeyFile.neighbours ⟨1, 0⟩
  let c := ChainFile.least false ⟨1, 0⟩
  let standing (chain : Octets) : FileSystem :=
    ⟨fun _ => .ok ⟨1, 0⟩, fun path => .ok (if path = pemFiles.key then k.data else chain)⟩
  have dated (chain : Octets) (path : String) : (standing chain).Dated path :=
    fun _ _ => ⟨⟨1, 0⟩, rfl⟩
  have loads : (Snapshot.load (standing c.data) pemFiles).outcome = .ok (k.pair c) :=
    k.decode_pair c
  have fails : (Snapshot.load (standing []) pemFiles).outcome = .error .emptyChain := by
    have noBlock : (Chain.decode []).outcome = .ok ⟨[]⟩ := eq_ok_of_toOption (by decide +kernel)
    change (Snapshot.decode k.data []).outcome = _
    rw [Snapshot.decode_outcome, k.decodes]
    change (Chain.decode []).outcome.bind _ = _
    rw [noBlock]
    rfl
  obtain ⟨reloads, stores, -⟩ :=
    first_tick_loads_once .empty (dated c.data pemFiles.key) (dated c.data pemFiles.certificates)
  obtain ⟨-, -, alike⟩ :=
    first_tick_loads_once .empty (dated [] pemFiles.key) (dated [] pemFiles.certificates)
  exact ⟨standing c.data, standing [], k.pair c, dated c.data, loads, reloads.1 ⟨_, loads⟩,
    stores _ loads, dated [], fails, (alike ⟨_, rfl⟩ ⟨_, rfl⟩ _).1 fails⟩

end Refresher
end CredentialRotation
