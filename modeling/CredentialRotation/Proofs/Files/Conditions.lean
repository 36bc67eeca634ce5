import CredentialRotation.Files.Conditions
import CredentialRotation.Proofs.Files.Frame

/-!
What saving a file comes to under all conditions. Once the file is created it holds a beginning of
what is saved, and nothing else in the tree has changed.
-/
namespace CredentialRotation

namespace Disk
variable {disk disk' : Disk} {path : String} {data : Octets} {modified : Moment}

/-- A file holds these octets now, and nothing but what its path leads to has changed. -/
structure Rewritten (path : String) (data : Octets) (disk disk' : Disk) : Prop where
  holds : disk'.read path = .ok data
  others : ∃ names, disk.LeadsTo path names ∧ ∀ other, ¬ disk.LeadsTo other names →
    ∀ node, disk'.find other = .ok node ↔ disk.find other = .ok node

theorem rewritten_of_write (writes : disk.write path data modified = .ok disk') :
    disk.Rewritten path data disk' := by
  obtain ⟨names, leads, agree⟩ := agreeBut_of_write writes
  exact ⟨read_of_write writes, names, leads, fun other apart node => agree.find_iff apart⟩

end Disk

namespace Conditions
variable {k : Conditions} {disk emptied : Disk} {path : String} {data : Octets}

theorem taken_cases (k : Conditions) (path : String) (data : Octets) :
    k.taken path data = (data, .ok ()) ∨
      ∃ n < data.length, ∃ failure, k.taken path data = (data.take n, .error failure) := by
  unfold taken
  cases k.room path with
  | none => exact .inl rfl
  | some limit =>
    obtain ⟨most, failure⟩ := limit
    by_cases fits : data.length ≤ most
    · exact .inl (if_pos fits)
    · exact .inr ⟨most, Nat.lt_of_not_le fits, failure, if_neg fits⟩

theorem put_of_create (creates : k.create disk path = .ok emptied) :
    k.put disk path [] = .ok emptied := by
  unfold create at creates
  cases refused : k.unwritable path with
  | some failure =>
    rw [refused] at creates
    cases creates
  | none =>
    rw [refused] at creates
    exact creates

theorem put_of_sink (sink : k.isSink path = true) : k.put disk path data = .ok disk :=
  if_pos sink

theorem put_of_kept (kept : k.isSink path = false) :
    k.put disk path data = disk.write path data ⟨0, 0⟩ := by
  rw [put, kept]
  rfl

/-- What becomes of octets that are to be put into a file once it is created. A device keeps nothing
of them, whatever it answers. -/
inductive Filling (k : Conditions) (path : String) (data : Octets) (disk : Disk) :
    Except FileFailure Unit → Disk → Prop
  | lost (result : Except FileFailure Unit) (sink : k.isSink path = true) :
    Filling k path data disk result disk
  | whole {disk' : Disk} (kept : k.isSink path = false)
      (rewritten : disk.Rewritten path data disk') : Filling k path data disk (.ok ()) disk'
  | part {disk' : Disk} {n : Nat} (failure : FileFailure) (kept : k.isSink path = false)
      (short : n < data.length) (rewritten : disk.Rewritten path (data.take n) disk') :
    Filling k path data disk (.error failure) disk'

/-- A file that was created is filled as if it had been written at once, as far as there is room. -/
theorem filling (creates : k.create disk path = .ok emptied) (data : Octets) :
    ∃ disk', k.fill emptied path data = ((k.taken path data).2, disk') ∧
      Filling k path data disk (k.taken path data).2 disk' := by
  have empties := put_of_create creates
  cases sink : k.isSink path with
  | true =>
    obtain rfl := Except.ok.inj (empties.symm.trans (put_of_sink sink))
    refine ⟨emptied, ?_, .lost _ sink⟩
    simp only [fill, put_of_sink sink]
  | false =>
    rw [put_of_kept sink] at empties
    have takes : disk.Takes path := ⟨_, _, _, empties⟩
    obtain ⟨disk', writes⟩ := takes.write (k.taken path data).1 ⟨0, 0⟩
    refine ⟨disk', ?_, ?_⟩
    · simp only [fill, put_of_kept sink, Disk.write_write empties, writes]
    · rcases k.taken_cases path data with all | ⟨n, short, failure, cut⟩
      · rw [all] at writes ⊢
        exact .whole sink (Disk.rewritten_of_write writes)
      · rw [cut] at writes ⊢
        exact .part failure sink short (Disk.rewritten_of_write writes)

section Filling
variable {failure : FileFailure} {disk' : Disk}

theorem Filling.complete (filling : Filling k path data disk (.ok ()) disk') :
    (k.isSink path = true → disk' = disk) ∧
      (k.isSink path = false → disk.Rewritten path data disk') := by
  cases filling with
  | lost _ sink => exact ⟨fun _ => rfl, fun kept => (nomatch kept.symm.trans sink)⟩
  | whole kept rewritten =>
    exact ⟨fun sink => (nomatch kept.symm.trans sink), fun _ => rewritten⟩

end Filling

end Conditions
end CredentialRotation
