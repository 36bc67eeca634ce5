import CredentialRotation.Proofs.Credential.BusySite
import CredentialRotation.Proofs.Credential.Generations
import Mathlib.Data.List.Induction

/-!
Files that are replaced while a tick is under way. Only the times that a tick has looked at are
compared with later, so what was written behind these looks is still new to the next tick.
-/
namespace CredentialRotation.BusySite

/-- No tick that looked at a file during these events has reloaded. Of the events behind both looks
of some reload it says that no later tick has reloaded. -/
def Unseen (recent : List Event) : Prop :=
  ∀ before reload after, recent = before ++ reload :: after → reload.isReload = true →
    ∀ e ∈ before, e.isLook = false

variable {s₀ s : BusySite} {recent : List Event} {e : Event} {path : String}

theorem Unseen.of_concat (unseen : Unseen (recent ++ [e])) : Unseen recent := by
  intro before reload after joined
  apply unseen before reload (after ++ [e])
  rw [joined, List.append_assoc, List.cons_append]

/-- Without any look, nothing was looked at by a tick that reloaded. -/
theorem Unseen.of_blind (blind : ∀ e ∈ recent, e.isLook = false) : Unseen recent := by
  rintro before reload after rfl - e mem
  exact blind e (List.mem_append_left _ mem)

/-- What is applied meanwhile had been looked at before. -/
theorem applied_before (sound : s₀.Sound) (run : Run Step s₀ recent s) (unseen : Unseen recent) :
    AppliedAmong s₀.times s ∧ ((∀ e ∈ recent, e.isLook = false) → ShownAmong s₀.times s) := by
  induction recent using List.reverseRecOn generalizing s with
  | nil =>
    obtain rfl := Run.nil_iff.1 run
    exact ⟨sound.applied, fun _ => sound.shown⟩
  | append_singleton recent e ih =>
    obtain ⟨r, earlier, step⟩ := Run.concat_iff.1 run
    obtain ⟨applied, shown⟩ := ih earlier unseen.of_concat
    constructor
    · exact applied.step step fun reload => shown (unseen recent e [] rfl reload)
    · intro blind
      obtain ⟨blindBefore, blindNow⟩ := List.forall_mem_append.1 blind
      refine (shown blindBefore).step step fun look => ?_
      cases look.symm.trans (blindNow e List.mem_cons_self)

/-- A file that was replaced has a time that it did not have before. -/
theorem new_time (run : Run Step s₀ recent s) (written : ∃ f, .wrote path f ∈ recent) :
    ∃ f, s.stored path = some f ∧ f.modified ∉ s₀.times path := by
  induction recent using List.reverseRecOn generalizing s with
  | nil =>
    obtain ⟨f, mem⟩ := written
    cases mem
  | append_singleton recent e ih =>
    obtain ⟨r, earlier, step⟩ := Run.concat_iff.1 run
    have kept : ∀ m ∈ s₀.times path, m ∈ r.times path := times_of_run earlier path
    have before (other : ∀ f, e ≠ .wrote path f) :
        ∃ f, r.stored path = some f ∧ f.modified ∉ s₀.times path := by
      obtain ⟨f, mem⟩ := written
      rcases List.mem_append.1 mem with mem | mem
      · exact ih earlier ⟨f, mem⟩
      · exact absurd (List.mem_singleton.1 mem).symm (other f)
    cases step with
    | wrote path' file fresh =>
      by_cases same : path' = path
      · subst same
        exact ⟨file, write_stored_self, fun old => fresh (kept _ old)⟩
      · obtain ⟨f, stands, new⟩ := before (by rintro f ⟨⟩; exact same rfl)
        exact ⟨f, (write_stored_of_ne (Ne.symm same)).trans stands, new⟩
    | started idle => exact before nofun
    | answered ticking asks fits => exact before nofun
    | ended ticking comes => exact before nofun

/-- Two files that were both replaced behind the looks of the latest reload are new to the next
tick: it can run, and it comes to nothing but a reload of what stands there. -/
theorem late_writes_are_loaded {files : IdentityFiles} {stored : String → Option StoredFile}
    {past : List Event} {k c : StoredFile} {snapshot : Snapshot}
    (run : Run Step (start files stored) (past ++ recent) s) (unseen : Unseen recent)
    (keyWritten : ∃ f, .wrote files.key f ∈ recent)
    (chainWritten : ∃ f, .wrote files.certificates f ∈ recent) (idle : s.underWay = none)
    (key : s.stored files.key = some k) (chain : s.stored files.certificates = some c)
    (usable : (Snapshot.decode k.data c.data).outcome = .ok snapshot) :
    (∃ calls outcome t, (∀ e ∈ calls, e.Undisturbing files) ∧
        Run Step s (wholeTick calls outcome) t) ∧
      ∀ calls outcome t, (∀ e ∈ calls, e.Undisturbing files) →
        Run Step s (wholeTick calls outcome) t →
          outcome = .ok .reloaded ∧ t.refresher.store.snapshot? = some snapshot := by
  obtain rfl : s.files = files := files_of_run run
  obtain ⟨r, earlier, later⟩ := Run.append_iff.1 run
  have applied := (applied_before ((sound_start _ _).run earlier) later unseen).1
  obtain ⟨k', sameKey, newKey⟩ := new_time later keyWritten
  obtain ⟨c', sameChain, newChain⟩ := new_time later chainWritten
  obtain rfl := Option.some.inj (key.symm.trans sameKey)
  obtain rfl := Option.some.inj (chain.symm.trans sameChain)
  have opened : s.refresher.watch.bothChanged k.modified c.modified = true :=
    WatchState.bothChanged_eq_true_iff.2
      ⟨fun last => newKey (applied.key _ last), fun last => newChain (applied.chain _ last)⟩
  refine ⟨exists_wholeTick idle key chain, ?_⟩
  intro calls outcome t quiet tick
  obtain ⟨-, -, u, ticked, same⟩ := ticked_of_wholeTick tick quiet
  rcases ticked.of_usable key chain usable with ⟨shut, -⟩ | ⟨-, rfl, rfl⟩
  · cases opened.symm.trans shut
  · exact ⟨rfl, congrArg (fun r => r.store.snapshot?) same⟩

/-- Both files may be replaced between the looks and the reads of a tick. It applies what it reads,
under times that are over. -/
theorem exists_torn_tick {k c k' c' : StoredFile} {snapshot : Snapshot}
    (distinct : s.files.key ≠ s.files.certificates) (idle : s.underWay = none)
    (key : s.stored s.files.key = some k) (chain : s.stored s.files.certificates = some c)
    (opened : s.refresher.watch.bothChanged k.modified c.modified = true)
    (newKey : k'.modified ∉ s.times s.files.key)
    (newChain : c'.modified ∉ s.times s.files.certificates)
    (usable : (Snapshot.decode k'.data c'.data).outcome = .ok snapshot) :
    ∃ t, Run Step s
        ((.started :: (lookAnswers s.files k.modified c.modified).map .answered) ++
          [.wrote s.files.key k', .wrote s.files.certificates c'] ++
          ((readAnswers s.files k'.data c'.data).map .answered ++ [.ended (.ok .reloaded)])) t ∧
      t.underWay = none ∧ t.stored s.files.key = some k' ∧
      t.stored s.files.certificates = some c' := by
  obtain ⟨x, comes, loads⟩ : ∃ x, (Tick.program s.refresher.watch).Yields
      (lookAnswers s.files k.modified c.modified ++ readAnswers s.files k'.data c'.data) x ∧
      x.outcome = .ok (.reloaded k.modified c.modified snapshot) :=
    ⟨_, Tick.yields_load opened k'.data c'.data, by rw [Tick.load_outcome, usable]; rfl⟩
  have idleNow : { s with underWay := some [] : BusySite }.underWay = some [] := rfl
  have looks := exists_calls _ idleNow comes
    (List.forall_mem_cons.2 ⟨⟨k, key, rfl⟩, List.forall_mem_cons.2 ⟨⟨c, chain, rfl⟩, nofun⟩⟩)
  obtain ⟨u, writes, same, ticking, keyNow, chainNow, -⟩ :=
    exists_writes (s := { s with underWay := some (lookAnswers s.files k.modified c.modified) })
      distinct newKey newChain
  rw [← show u.refresher = s.refresher from same] at comes
  rw [← List.append_nil (_ ++ _)] at comes
  have reads := exists_calls [] ticking comes
    (List.forall_mem_cons.2 ⟨⟨k', keyNow, rfl⟩,
      List.forall_mem_cons.2 ⟨⟨c', chainNow, rfl⟩, nofun⟩⟩)
  have ends := Step.ended { u with underWay := some _ } rfl comes
  rw [loads] at ends
  have run := Run.append_iff.2 ⟨u, Run.append_iff.2 ⟨_, .cons (.started s idle) looks, writes⟩,
    Run.concat_iff.2 ⟨_, reads, ends⟩⟩
  exact ⟨_, run, rfl, keyNow, chainNow⟩

/-- Two generations, the second written between the looks and the reads of a tick that then applies
it under the times of the first. The next tick loads it once more. -/
theorem late_writes_are_loaded_torn :
    ∃ past recent s, Run Step (start pemFiles fun _ => none) (past ++ recent) s ∧
      (∃ e ∈ recent, e.isReload = true) ∧ Unseen recent ∧
      s.toSite.Stands (Generations.alternating.key 1) (Generations.alternating.chain 1) ∧
      ∃ calls t, Run Step s (wholeTick calls (.ok .reloaded)) t ∧
        t.refresher.store.snapshot? =
          some ((Generations.alternating.key 1).pair (Generations.alternating.chain 1)) := by
  let gens := Generations.alternating
  let s₀ := start pemFiles fun _ => none
  have distinct : pemFiles.key ≠ pemFiles.certificates := by decide
  have newKey : (gens.key 0).toStoredFile.modified ∉ s₀.times pemFiles.key := List.not_mem_nil
  have newChain : (gens.chain 0).toStoredFile.modified ∉ s₀.times pemFiles.certificates :=
    List.not_mem_nil
  obtain ⟨r, writes, same, idle, keyFirst, chainFirst, keyTimes, chainTimes⟩ :=
    exists_writes distinct newKey newChain
  have files : r.files = pemFiles := files_of_run writes
  rw [← files] at distinct keyFirst chainFirst
  have opened : r.refresher.watch.bothChanged (gens.key 0).modified (gens.chain 0).modified =
      true := by
    rw [same]
    rfl
  have laterKey : (gens.key 1).toStoredFile.modified ∉ r.times r.files.key := by
    rw [files, keyTimes]
    decide
  have laterChain : (gens.chain 1).toStoredFile.modified ∉ r.times r.files.certificates := by
    rw [files, chainTimes]
    decide
  have usable := (gens.key 1).decode_pair (gens.chain 1)
  obtain ⟨s, torn, idleNow, key, chain⟩ :=
    exists_torn_tick distinct idle keyFirst chainFirst opened laterKey laterChain usable
  rw [files, List.append_assoc] at torn
  rw [files] at key chain
  have run := Run.append_iff.2 ⟨r, writes, torn⟩
  rw [← List.append_assoc] at run
  have unseen : Unseen ([.wrote pemFiles.key (gens.key 1).toStoredFile,
      .wrote pemFiles.certificates (gens.chain 1).toStoredFile] ++
    ((readAnswers pemFiles (gens.key 1).data (gens.chain 1).data).map .answered ++
      [.ended (.ok .reloaded)])) := .of_blind (by simp [Event.isLook, readAnswers])
  obtain ⟨⟨calls, outcome, t, quiet, tick⟩, loaded⟩ := late_writes_are_loaded run unseen
    ⟨_, List.mem_cons_self⟩ ⟨_, List.mem_cons_of_mem _ List.mem_cons_self⟩ idleNow key chain usable
  obtain ⟨rfl, published⟩ := loaded calls outcome t quiet tick
  have files' : s.files = pemFiles := (files_of_run torn).trans files
  exact ⟨_, _, s, run, ⟨.ended (.ok .reloaded), by simp, rfl⟩, unseen,
    ⟨files' ▸ key, files' ▸ chain⟩, calls, t, tick, published⟩

end CredentialRotation.BusySite
