import CredentialRotation.Configuration.Loading
import CredentialRotation.Proofs.Steps
import Mathlib

/-!
What is known of a configuration that the program goes on with: a file said it, and it fulfils every
condition.
-/
namespace CredentialRotation.Configuration
variable {c : Configuration} {path : String}

section Load
variable {read : Disk → String → Except FileFailure Octets}
  {write : String → Octets → StateM Disk (Except FileFailure Unit)} {disk disk' : Disk}
  {cause : ConfigurationFailure} {failure : FileFailure}

-- The four courses of loading over a tree that is read as it stands. How a file is written is left
-- open, so that they serve for a tree alone and for one that is used under conditions.
theorem load_of_read (reads : ofContents (read disk path) = .ok c) (create : Bool) :
    let left :=
      load (m := StateM Disk) (fun path => return read (← get) path) write path create disk
    left.1.outcome = (c.validate.map fun _ => c) ∧ left.2 = disk := by
  simp [load, bind, StateT.bind, get, getThe, MonadStateOf.get, StateT.get, pure, StateT.pure,
    reads]

theorem load_of_unread (unread : ofContents (read disk path) = .error cause) :
    let left := load (m := StateM Disk) (fun path => return read (← get) path) write path false disk
    left.1.outcome = .error (.fileNotWanted path) ∧ left.2 = disk := by
  simp [load, bind, StateT.bind, get, getThe, MonadStateOf.get, StateT.get, pure, StateT.pure,
    unread]

theorem load_of_written (unread : ofContents (read disk path) = .error cause)
    (writes : write path initial.contents disk = (.ok (), disk')) :
    let left := load (m := StateM Disk) (fun path => return read (← get) path) write path true disk
    left.1.outcome = .error (.fileCreated path) ∧ left.2 = disk' := by
  simp [load, bind, StateT.bind, get, getThe, MonadStateOf.get, StateT.get, pure, StateT.pure,
    unread, writes]

theorem load_of_unwritten (unread : ofContents (read disk path) = .error cause)
    (fails : write path initial.contents disk = (.error failure, disk')) :
    let left := load (m := StateM Disk) (fun path => return read (← get) path) write path true disk
    left.1.outcome = .error (.fileNotCreated path) ∧ left.2 = disk' := by
  simp [load, bind, StateT.bind, get, getThe, MonadStateOf.get, StateT.get, pure, StateT.pure,
    unread, fails]

end Load

/-- Some file, in some tree, gives this configuration to a program that loads it. -/
def Accepted (c : Configuration) : Prop :=
  ∃ path create disk, (loadFrom path create disk).1.outcome = .ok c

/-- The courses of loading a configuration from a tree of files, with what each comes to and the
tree that it leaves. -/
inductive LoadCourse (path : String) (disk : Disk) :
    (create : Bool) → Except SetupFailure Configuration → Disk → Prop
  | accepted {c : Configuration} (create : Bool) (read : ofContents (disk.read path) = .ok c)
      (valid : c.validate = .ok ()) : LoadCourse path disk create (.ok c) disk
  | invalid {c : Configuration} {failure : SetupFailure} (create : Bool)
      (read : ofContents (disk.read path) = .ok c) (invalid : c.validate = .error failure) :
    LoadCourse path disk create (.error failure) disk
  | unwanted {cause : ConfigurationFailure} (unread : ofContents (disk.read path) = .error cause) :
    LoadCourse path disk false (.error (.fileNotWanted path)) disk
  | created {cause : ConfigurationFailure} {disk' : Disk}
      (unread : ofContents (disk.read path) = .error cause)
      (writes : disk.write path initial.contents ⟨0, 0⟩ = .ok disk') :
    LoadCourse path disk true (.error (.fileCreated path)) disk'
  | notCreated {cause : ConfigurationFailure} {failure : FileFailure}
      (unread : ofContents (disk.read path) = .error cause)
      (fails : disk.write path initial.contents ⟨0, 0⟩ = .error failure) :
    LoadCourse path disk true (.error (.fileNotCreated path)) disk

theorem loadCourse (path : String) (create : Bool) (disk : Disk) :
    LoadCourse path disk create (loadFrom path create disk).1.outcome
      (loadFrom path create disk).2 := by
  cases read : ofContents (disk.read path) with
  | ok c =>
    have course : (loadFrom path create disk).1.outcome = (c.validate.map fun _ => c) ∧
        (loadFrom path create disk).2 = disk := load_of_read read create
    rw [course.1, course.2]
    cases valid : c.validate with
    | error failure => exact .invalid create read valid
    | ok result => exact .accepted create read valid
  | error cause =>
    cases create with
    | false =>
      have course : (loadFrom path false disk).1.outcome = .error (.fileNotWanted path) ∧
          (loadFrom path false disk).2 = disk := load_of_unread read
      rw [course.1, course.2]
      exact .unwanted read
    | true =>
      cases writes : disk.write path initial.contents ⟨0, 0⟩ with
      | ok disk' =>
        have course : (loadFrom path true disk).1.outcome = .error (.fileCreated path) ∧
            (loadFrom path true disk).2 = disk' := load_of_written read (by rw [writes])
        rw [course.1, course.2]
        exact .created read writes
      | error failure =>
        have course : (loadFrom path true disk).1.outcome = .error (.fileNotCreated path) ∧
            (loadFrom path true disk).2 = disk := load_of_unwritten read (by rw [writes])
        rw [course.1, course.2]
        exact .notCreated read writes

theorem Accepted.valid (accepted : c.Accepted) : c.validate = .ok () := by
  obtain ⟨path, create, disk, loads⟩ := accepted
  have course := loadCourse path create disk
  rw [loads] at course
  generalize (loadFrom path create disk).2 = left at course
  cases course with
  | accepted _ read valid => exact valid

section Valid

/-- Validation is a series of checks, one for each condition and then one for each interval. -/
theorem validate_eq_ok_iff : c.validate = .ok () ↔
    (∀ condition ∈ c.conditions, condition.check = .ok ()) ∧ c.identity.refreshMillis ≠ 0 ∧
      c.consoleSeconds ≠ 0 := by
  rw [← forM_eq_ok_iff]
  unfold validate
  cases c.conditions.forM Condition.check with
  | error failure => exact iff_of_false nofun fun h => nomatch h.1
  | ok result =>
    by_cases refresh : c.identity.refreshMillis = 0
    · rw [if_pos refresh]
      exact iff_of_false nofun fun h => h.2.1 refresh
    by_cases console : c.consoleSeconds = 0
    · rw [if_neg refresh, if_pos console]
      exact iff_of_false nofun fun h => h.2.2 console
    · rw [if_neg refresh, if_neg console]
      exact iff_of_true rfl ⟨rfl, refresh, console⟩

/-- No trust bundle lies at an empty path. -/
theorem bundlePath_ne_empty (valid : c.validate = .ok ())
    (configured : c.verification.trustBundlePath = some path) : path ≠ "" := by
  rintro rfl
  have checks := (validate_eq_ok_iff.1 valid).1
    ⟨"[VERIFICATION] Trust bundle path", "", pathPattern⟩
    (by simp [conditions, configured])
  have fails : (Condition.check ⟨"[VERIFICATION] Trust bundle path", "", pathPattern⟩).toOption =
      none := by
    decide +kernel
  rw [checks] at fails
  cases fails

end Valid
end CredentialRotation.Configuration
