import CredentialRotation.Proofs.Files.Disk

/-!
What writing a file leaves alone. A path that does not lead to the place of the file leads to what
it led to before, and to nothing if it led to nothing.
-/
namespace CredentialRotation.Disk

/-- The place at the end of a path, whether or not there is something. -/
def Target.place : Target → Place
  | .found place _ => place
  | .missing (.inside names) name => .inside (names ++ [name])
  | .missing .outside _ => .outside

/-- A path leads to a place below the working directory, whether or not there is something. -/
def LeadsTo (disk : Disk) (path : String) (names : List String) : Prop :=
  ∃ t, disk.locate path = .ok t ∧ t.place = .inside names

/-- Two trees are the same but for one place, where neither has a directory. -/
structure AgreeBut (target : List String) (disk other : Disk) : Prop where
  same : ∀ place, place ≠ .inside target → other.node? place = disk.node? place
  free : disk.node? (.inside target) ≠ some .directory
  otherFree : other.node? (.inside target) ≠ some .directory

variable {disk other : Disk} {path name : String} {place : Place} {node : Node}
  {ns names target : List String} {t : Target}

theorem AgreeBut.symm (agree : AgreeBut target disk other) : AgreeBut target other disk :=
  ⟨fun place apart => (agree.same place apart).symm, agree.otherFree, agree.free⟩

/-- Where there is no directory, a name is the last one. -/
theorem exists_leads_last (plain : Plain name)
    (free : disk.node? (.inside (ns ++ [name])) ≠ some .directory) :
    ∃ t, Leads disk (.inside ns) [name] t ∧ t.place = .inside (ns ++ [name]) := by
  cases there : disk.node? (.inside (ns ++ [name])) with
  | none => exact ⟨_, .missing plain there, rfl⟩
  | some node =>
    cases node with
    | directory => exact absurd there free
    | file data modified => exact ⟨_, .file plain there, rfl⟩

/-- A last name leads to the same place in both trees. -/
theorem AgreeBut.exists_last (agree : AgreeBut target disk other) (plain : Plain name)
    (there : t.place = .inside (ns ++ [name]))
    (alike : other.node? (.inside (ns ++ [name])) = disk.node? (.inside (ns ++ [name])) →
      Leads other (.inside ns) [name] t) :
    ∃ u, Leads other (.inside ns) [name] u ∧ u.place = t.place ∧
      (t.place ≠ .inside target → u = t) := by
  by_cases meets : Place.inside (ns ++ [name]) = .inside target
  · obtain ⟨u, leads, same⟩ := exists_leads_last plain (meets ▸ agree.otherFree)
    exact ⟨u, leads, same.trans there.symm, fun apart => absurd (there.trans meets) apart⟩
  · exact ⟨t, alike (agree.same _ meets), rfl, fun _ => rfl⟩

/-- Names lead to the same place in both trees, and to the same thing but where the trees differ.
The way there goes through directories only, and so not through that place. -/
theorem AgreeBut.exists_leads (agree : AgreeBut target disk other)
    (leads : Leads disk place names t) :
    ∃ u, Leads other place names u ∧ u.place = t.place ∧ (t.place ≠ .inside target → u = t) := by
  induction leads with
  | here place => exact ⟨_, .here place, rfl, fun _ => rfl⟩
  | stay rest ih =>
    obtain ⟨u, leads, same⟩ := ih
    exact ⟨u, .stay leads, same⟩
  | up rest ih =>
    obtain ⟨u, leads, same⟩ := ih
    exact ⟨u, .up leads, same⟩
  | @down ns names name t plain there rest ih =>
    have apart : Place.inside (ns ++ [name]) ≠ .inside target :=
      fun meets => agree.free (meets ▸ there)
    obtain ⟨u, leads, same⟩ := ih
    exact ⟨u, .down plain ((agree.same _ apart).trans there) leads, same⟩
  | file plain there =>
    exact agree.exists_last plain rfl fun alike => .file plain (alike.trans there)
  | missing plain absent =>
    exact agree.exists_last plain rfl fun alike => .missing plain (alike.trans absent)
  | astray plain => exact ⟨_, .astray plain, rfl, fun _ => rfl⟩

theorem AgreeBut.exists_locate (agree : AgreeBut target disk other)
    (found : disk.locate path = .ok t) :
    ∃ u, other.locate path = .ok u ∧ u.place = t.place ∧ (t.place ≠ .inside target → u = t) := by
  obtain ⟨start, names, -, walks⟩ := locate_eq_walk found
  rw [walks] at found
  obtain ⟨u, leads, same⟩ := agree.exists_leads (walk_eq_ok_iff.1 found)
  exact ⟨u, (walks other).trans leads.walk_eq, same⟩

theorem AgreeBut.leadsTo (agree : AgreeBut target disk other) (leads : disk.LeadsTo path names) :
    other.LeadsTo path names := by
  obtain ⟨t, found, there⟩ := leads
  obtain ⟨u, located, same, -⟩ := agree.exists_locate found
  exact ⟨u, located, same.trans there⟩

theorem find_eq_ok_iff : disk.find path = .ok node ↔
    ∃ place, disk.locate path = .ok (.found place node) ∧
      ¬ (endsInSlash path = true ∧ node ≠ .directory) := by
  unfold find
  cases disk.locate path with
  | error cause => exact iff_of_false nofun fun ⟨_, found, _⟩ => nomatch found
  | ok t =>
    cases t with
    | missing parent name => exact iff_of_false nofun fun ⟨_, found, _⟩ => nomatch found
    | found place there =>
      by_cases slash : endsInSlash path = true ∧ there ≠ .directory
      · have fails : (if endsInSlash path = true ∧ there ≠ .directory then
            Except.error FileFailure.notDirectory else .ok there) = .error .notDirectory :=
          if_pos slash
        refine iff_of_false (fun finds => nomatch fails.symm.trans finds) ?_
        rintro ⟨_, found, none⟩
        cases found
        exact none slash
      · have finds : (if endsInSlash path = true ∧ there ≠ .directory then
            Except.error FileFailure.notDirectory else .ok there) = .ok there :=
          if_neg slash
        constructor
        · intro same
          obtain rfl := Except.ok.inj (finds.symm.trans same)
          exact ⟨place, rfl, slash⟩
        · rintro ⟨_, found, -⟩
          cases found
          exact finds

private theorem AgreeBut.find_eq_ok (agree : AgreeBut target disk other)
    (apart : ¬ disk.LeadsTo path target) (finds : disk.find path = .ok node) :
    other.find path = .ok node := by
  obtain ⟨place, found, slash⟩ := find_eq_ok_iff.1 finds
  obtain ⟨u, located, -, same⟩ := agree.exists_locate found
  obtain rfl := same fun there => apart ⟨_, found, there⟩
  exact find_eq_ok_iff.2 ⟨place, located, slash⟩

/-- A path that does not lead to the place where the trees differ finds the same in both. -/
theorem AgreeBut.find_iff (agree : AgreeBut target disk other)
    (apart : ¬ disk.LeadsTo path target) :
    other.find path = .ok node ↔ disk.find path = .ok node :=
  ⟨agree.symm.find_eq_ok fun leads => apart (agree.symm.leadsTo leads), agree.find_eq_ok apart⟩

/-- Writing changes nothing but what stands at the place that its path leads to. -/
theorem agreeBut_of_write {data : Octets} {modified : Moment}
    (writes : disk.write path data modified = .ok other) :
    ∃ target, disk.LeadsTo path target ∧ AgreeBut target disk other := by
  obtain ⟨-, t, target, found, writable, rfl⟩ := write_eq_ok writes
  obtain ⟨start, names, -, walks⟩ := locate_eq_walk found
  obtain ⟨nonempty, free⟩ := (walk_eq_ok_iff.1 ((walks disk).symm.trans found)).free writable
  have there : t.place = .inside target := by cases writable <;> rfl
  refine ⟨target, ⟨t, found, there⟩, fun place apart => node?_set_ne apart, free, ?_⟩
  rw [node?_set_self nonempty]
  nofun

end CredentialRotation.Disk
