import CredentialRotation.Files.Disk

/-!
Trees of files, seen along a path. Whatever can be read there has a time of its last modification,
and a file that was written is what is read from then on.
-/
namespace CredentialRotation

/-- A file that can be read also has a time of its last modification. -/
def FileSystem.Dated (fs : FileSystem) (path : String) : Prop :=
  ∀ text, fs.read path = .ok text → ∃ moment, fs.modified path = .ok moment

namespace Disk
variable {disk : Disk} {path name : String} {place : Place} {node new : Node}
  {names target : List String} {t : Target}

/-- In a tree everything that is there has a time. -/
theorem dated (disk : Disk) (path : String) : disk.fileSystem.Dated path := by
  intro text reads
  change disk.read path = .ok text at reads
  change ∃ moment, disk.modified path = .ok moment
  unfold Disk.read at reads
  unfold Disk.modified
  cases found : disk.find path with
  | error cause =>
    rw [found] at reads
    cases reads
  | ok node => cases node <;> exact ⟨_, rfl⟩

section Set

theorem lookup_filter_ne {ns : List String} (other : ns ≠ target)
    (nodes : List (List String × Node)) :
    (nodes.filter fun (names, _) => names ≠ target).lookup ns = nodes.lookup ns := by
  induction nodes with
  | nil => rfl
  | cons entry nodes ih =>
    obtain ⟨names, node⟩ := entry
    by_cases same : names = target
    · rw [List.filter_cons_of_neg (by simpa using same), ih, List.lookup_cons,
        beq_false_of_ne (same ▸ other)]
    · rw [List.filter_cons_of_pos (by simpa using same), List.lookup_cons, List.lookup_cons, ih]

theorem node?_set_self (nonempty : target ≠ []) :
    (disk.set target new).node? (.inside target) = some new := by
  cases target with
  | nil => exact absurd rfl nonempty
  | cons name rest =>
    change List.lookup (name :: rest) ((name :: rest, new) :: _) = _
    exact List.lookup_cons_self

theorem node?_set_ne (other : place ≠ .inside target) :
    (disk.set target new).node? place = disk.node? place := by
  cases place with
  | outside => rfl
  | inside ns =>
    cases ns with
    | nil => rfl
    | cons name rest =>
      have differ : name :: rest ≠ target := fun same => other (congrArg Place.inside same)
      change List.lookup (name :: rest) ((target, new) :: _) = _
      rw [List.lookup_cons, beq_false_of_ne differ]
      exact lookup_filter_ne differ _

/-- Of two nodes that are set in one place the second stays. -/
theorem set_set (old : Node) : (disk.set target old).set target new = disk.set target new := by
  simp [set, List.filter_filter]

end Set

/-- A name that leads to something in a directory, and is no longer than it may be. -/
structure Plain (name : String) : Prop where
  noDot : name ≠ "."
  noDots : name ≠ ".."
  short : ¬ (Utf8.ofString name).length > longestName

/-- Where names lead to from a directory. -/
inductive Leads (disk : Disk) : Place → List String → Target → Prop
  | here (place : Place) : Leads disk place [] (.found place .directory)
  | stay {place : Place} {names : List String} {t : Target} (rest : Leads disk place names t) :
    Leads disk place ("." :: names) t
  | up {place : Place} {names : List String} {t : Target}
      (rest : Leads disk (parent place) names t) : Leads disk place (".." :: names) t
  | down {ns names : List String} {name : String} {t : Target} (plain : Plain name)
      (there : disk.node? (.inside (ns ++ [name])) = some .directory)
      (rest : Leads disk (.inside (ns ++ [name])) names t) :
    Leads disk (.inside ns) (name :: names) t
  | file {ns : List String} {name : String} {data : Octets} {modified : Moment}
      (plain : Plain name)
      (there : disk.node? (.inside (ns ++ [name])) = some (.file data modified)) :
    Leads disk (.inside ns) [name] (.found (.inside (ns ++ [name])) (.file data modified))
  | missing {ns : List String} {name : String} (plain : Plain name)
      (absent : disk.node? (.inside (ns ++ [name])) = none) :
    Leads disk (.inside ns) [name] (.missing (.inside ns) name)
  | astray {name : String} (plain : Plain name) :
    Leads disk .outside [name] (.missing .outside name)

theorem walk_plain (plain : Plain name) :
    walk disk place .directory (name :: names) =
      match (child place name).bind fun p => (disk.node? p).map (p, ·) with
      | some (p, n) => walk disk p n names
      | none => if names.isEmpty then .ok (.missing place name) else .error .notFound := by
  rw [walk]
  exact (if_neg (not_not_intro rfl)).trans <| (if_neg plain.noDot).trans <|
    (if_neg plain.noDots).trans (if_neg plain.short)

theorem walk_child {ns : List String} {n : Node} (plain : Plain name)
    (there : disk.node? (.inside (ns ++ [name])) = some n) :
    walk disk (.inside ns) .directory (name :: names) =
      walk disk (.inside (ns ++ [name])) n names := by
  have entry : (child (.inside ns) name).bind (fun p => (disk.node? p).map (p, ·)) =
      some (.inside (ns ++ [name]), n) := Option.map_eq_some_iff.2 ⟨n, there, rfl⟩
  rw [walk_plain plain, entry]

theorem walk_no_child {ns : List String} (plain : Plain name)
    (absent : disk.node? (.inside (ns ++ [name])) = none) :
    walk disk (.inside ns) .directory (name :: names) =
      if names.isEmpty then .ok (.missing (.inside ns) name) else .error .notFound := by
  have entry : (child (.inside ns) name).bind (fun p => (disk.node? p).map (p, ·)) = none :=
    Option.map_eq_none_iff.2 absent
  rw [walk_plain plain, entry]

theorem Leads.walk_eq (leads : Leads disk place names t) :
    walk disk place .directory names = .ok t := by
  induction leads with
  | here place => rfl
  | stay rest ih => rwa [walk, if_neg (not_not_intro rfl), if_pos rfl]
  | up rest ih => rwa [walk, if_neg (not_not_intro rfl), if_neg (by decide), if_pos rfl]
  | down plain there rest ih => rwa [walk_child plain there]
  | file plain there => rw [walk_child plain there, walk]
  | missing plain absent => exact walk_no_child plain absent
  | astray plain => exact walk_plain plain

/-- Walking follows the names, and ends at the first file on the way. -/
theorem walk_eq_ok_iff :
    walk disk place .directory names = .ok t ↔ Leads disk place names t := by
  refine ⟨fun walks => ?_, Leads.walk_eq⟩
  induction names generalizing place with
  | nil =>
    obtain rfl := Except.ok.inj walks
    exact .here place
  | cons name names ih =>
    by_cases dot : name = "."
    · subst dot
      rw [walk, if_neg (not_not_intro rfl), if_pos rfl] at walks
      exact .stay (ih walks)
    by_cases dots : name = ".."
    · subst dots
      rw [walk, if_neg (not_not_intro rfl), if_neg dot, if_pos rfl] at walks
      exact .up (ih walks)
    by_cases long : (Utf8.ofString name).length > longestName
    · rw [walk, if_neg (not_not_intro rfl), if_neg dot, if_neg dots, if_pos long] at walks
      cases walks
    have plain : Plain name := ⟨dot, dots, long⟩
    cases place with
    | outside =>
      rw [walk_plain plain] at walks
      cases names with
      | nil =>
        obtain rfl := Except.ok.inj walks
        exact .astray plain
      | cons other rest => cases walks
    | inside ns =>
      cases there : disk.node? (.inside (ns ++ [name])) with
      | none =>
        rw [walk_no_child plain there] at walks
        cases names with
        | nil =>
          obtain rfl := Except.ok.inj walks
          exact .missing plain there
        | cons other rest => cases walks
      | some node =>
        rw [walk_child plain there] at walks
        cases node with
        | directory => exact .down plain there (ih walks)
        | file data modified =>
          cases names with
          | nil =>
            obtain rfl := Except.ok.inj walks
            exact .file plain there
          | cons other rest =>
            rw [walk, if_pos nofun] at walks
            cases walks

/-- What stands where a file can be written: an older file, or nothing yet. -/
inductive Writable : Target → List String → Prop
  | replaced (names : List String) (data : Octets) (modified : Moment) :
    Writable (.found (.inside names) (.file data modified)) names
  | created (names : List String) (name : String) :
    Writable (.missing (.inside names) name) (names ++ [name])

/-- Where a file can be written there is no directory. -/
theorem Leads.free (leads : Leads disk place names t) (writable : Writable t target) :
    target ≠ [] ∧ disk.node? (.inside target) ≠ some .directory := by
  induction leads with
  | here place => cases writable
  | stay rest ih => exact ih writable
  | up rest ih => exact ih writable
  | down plain there rest ih => exact ih writable
  | @file ns name data modified plain there =>
    cases writable
    exact ⟨List.concat_ne_nil _ _, there ▸ nofun⟩
  | missing plain absent =>
    cases writable
    exact ⟨List.concat_ne_nil _ _, absent ▸ nofun⟩
  | astray plain => cases writable

/-- A path that leads to a place for a file has not led through that place. -/
def Clear (target : List String) : Place → Prop
  | .inside names => ¬ target <+: names
  | .outside => True

theorem Clear.ne (clear : Clear target place) : place ≠ .inside target := by
  rintro rfl
  exact clear (List.prefix_refl target)

theorem Clear.parent (clear : Clear target place) : Clear target (Disk.parent place) := by
  cases place with
  | outside => trivial
  | inside names =>
    cases names with
    | nil => trivial
    | cons name rest => exact fun within => clear (within.trans (List.dropLast_prefix _))

theorem Clear.concat {ns : List String} (clear : Clear target (.inside ns))
    (other : ns ++ [name] ≠ target) : Clear target (.inside (ns ++ [name])) := by
  intro within
  rcases List.prefix_concat_iff.1 within with same | shorter
  · exact other same.symm
  · exact clear shorter

/-- Once a file is written, the path to its place leads to it. -/
theorem Leads.set (leads : Leads disk place names t) (writable : Writable t target)
    (clear : Clear target place) :
    walk (disk.set target new) place .directory names = .ok (.found (.inside target) new) := by
  obtain ⟨nonempty, free⟩ := leads.free writable
  induction leads with
  | here place => cases writable
  | stay rest ih =>
    rw [walk, if_neg (not_not_intro rfl), if_pos rfl]
    exact ih writable clear
  | up rest ih =>
    rw [walk, if_neg (not_not_intro rfl), if_neg (by decide), if_pos rfl]
    exact ih writable clear.parent
  | @down ns names name t plain there rest ih =>
    have below : Clear target (.inside (ns ++ [name])) :=
      clear.concat fun same => free (same ▸ there)
    rw [walk_child plain ((node?_set_ne below.ne).trans there)]
    exact ih writable below
  | file plain there =>
    cases writable
    rw [walk_child plain (node?_set_self nonempty), walk]
  | missing plain absent =>
    cases writable
    rw [walk_child plain (node?_set_self nonempty), walk]
  | astray plain => cases writable

/-- Either no file can be written at a path, whatever it is to hold, or each can, and then it is put
where the path leads to a place for it. -/
theorem write_cases (disk : Disk) (path : String) :
    (∃ failure, ∀ data modified, disk.write path data modified = .error failure) ∨
      endsInSlash path = false ∧ ∃ t target, disk.locate path = .ok t ∧ Writable t target ∧
        ∀ data modified,
          disk.write path data modified = .ok (disk.set target (.file data modified)) := by
  unfold Disk.write
  cases disk.locate path with
  | error cause => exact .inl ⟨cause, fun _ _ => rfl⟩
  | ok t =>
    cases t with
    | found place node =>
      cases node with
      | directory => exact .inl ⟨_, fun _ _ => rfl⟩
      | file old moment =>
        cases place with
        | outside => exact .inl ⟨_, fun _ _ => rfl⟩
        | inside names =>
          cases endsInSlash path with
          | true => exact .inl ⟨_, fun _ _ => rfl⟩
          | false => exact .inr ⟨rfl, _, _, rfl, .replaced names old moment, fun _ _ => rfl⟩
    | missing place name =>
      cases place with
      | outside => exact .inl ⟨_, fun _ _ => rfl⟩
      | inside names =>
        cases endsInSlash path with
        | true => exact .inl ⟨_, fun _ _ => rfl⟩
        | false => exact .inr ⟨rfl, _, _, rfl, .created names name, fun _ _ => rfl⟩

theorem write_eq_ok {disk' : Disk} {data : Octets} {modified : Moment}
    (writes : disk.write path data modified = .ok disk') :
    endsInSlash path = false ∧ ∃ t target, disk.locate path = .ok t ∧ Writable t target ∧
      disk' = disk.set target (.file data modified) := by
  rcases disk.write_cases path with ⟨failure, fails⟩ | ⟨slash, t, target, found, writable, puts⟩
  · cases writes.symm.trans (fails data modified)
  · obtain rfl := Except.ok.inj (writes.symm.trans (puts data modified))
    exact ⟨slash, t, target, found, writable, rfl⟩

/-- A file can be written at a path. -/
def Takes (disk : Disk) (path : String) : Prop :=
  ∃ data modified disk', disk.write path data modified = .ok disk'

/-- Whether a file can be written does not depend on what it is to hold. -/
theorem Takes.write (takes : disk.Takes path) (data : Octets) (modified : Moment) :
    ∃ disk', disk.write path data modified = .ok disk' := by
  obtain ⟨_, _, _, writes⟩ := takes
  rcases disk.write_cases path with ⟨failure, fails⟩ | ⟨-, t, target, -, -, puts⟩
  · cases writes.symm.trans (fails _ _)
  · exact ⟨_, puts data modified⟩

/-- A path that can be followed in one tree is walked from the same start in every tree. -/
theorem locate_eq_walk (found : disk.locate path = .ok t) :
    ∃ start names, (start = .outside ∨ start = .inside []) ∧
      ∀ tree : Disk, tree.locate path = walk tree start .directory names := by
  unfold locate at found
  by_cases nul : path.toList.contains '\x00'
  · rw [if_pos nul] at found
    cases found
  by_cases empty : path.isEmpty
  · rw [if_neg nul, if_pos empty] at found
    cases found
  by_cases long : (Utf8.ofString path).length > longestPath
  · rw [if_neg nul, if_neg empty, if_pos long] at found
    cases found
  refine ⟨_, _, ?_, fun tree => by rw [locate, if_neg nul, if_neg empty, if_neg long]⟩
  split
  · exact .inl rfl
  · exact .inr rfl

/-- The path of a file that was written leads to it. -/
theorem locate_set (found : disk.locate path = .ok t) (writable : Writable t target) :
    (disk.set target new).locate path = .ok (.found (.inside target) new) := by
  obtain ⟨start, names, isStart, walks⟩ := locate_eq_walk found
  have leads : Leads disk start names t := walk_eq_ok_iff.1 ((walks disk).symm.trans found)
  have clear : Clear target start := by
    obtain ⟨nonempty, -⟩ := leads.free writable
    rcases isStart with rfl | rfl
    · trivial
    · exact fun within => nonempty (List.prefix_nil.1 within)
  exact (walks _).trans (leads.set writable clear)

section Written
variable {disk' : Disk} {data : Octets} {modified : Moment}

/-- What was written is read again. -/
theorem read_of_write (writes : disk.write path data modified = .ok disk') :
    disk'.read path = .ok data := by
  obtain ⟨slash, t, target, found, writable, rfl⟩ := write_eq_ok writes
  unfold Disk.read Disk.find
  rw [locate_set found writable]
  simp only [slash, Bool.false_eq_true, false_and, if_false]
  rfl

/-- Of two files that are written in one place the second stays. -/
theorem write_write (writes : disk.write path data modified = .ok disk') (data₂ : Octets)
    (modified₂ : Moment) :
    disk'.write path data₂ modified₂ = disk.write path data₂ modified₂ := by
  rcases disk.write_cases path with ⟨failure, fails⟩ | ⟨slash, t, target, found, writable, puts⟩
  · cases writes.symm.trans (fails data modified)
  · obtain rfl := Except.ok.inj (writes.symm.trans (puts data modified))
    have again : (disk.set target (.file data modified)).write path data₂ modified₂ =
        .ok ((disk.set target (.file data modified)).set target (.file data₂ modified₂)) := by
      unfold Disk.write
      rw [locate_set found writable, slash]
      rfl
    rw [again, set_set, puts]

end Written

end Disk
end CredentialRotation
