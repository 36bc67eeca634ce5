import CredentialRotation.Proofs.Credential.BusySite

/-!
One file for the key and the chain, replaced at any time. A tick that has looked at the file as it
stands cannot read what it held before, so the last contents are applied in the end.
-/
namespace CredentialRotation.BusySite

/-- Once the tick under way was shown the time of the file as it stands, all that it reads of the
file is what stands there. -/
def ReadsOn (path : String) (f : StoredFile) (answers : List FileAnswer) : Prop :=
  ∀ before after, answers = before ++ .modified path (.ok f.modified) :: after →
    ∀ text, .read path (.ok text) ∈ after → text = f.data

/-- A refresher that knows the time of the file as it stands has loaded what stands there. -/
structure UpToDate (path : String) (s : BusySite) : Prop where
  applied : ∀ f, s.stored path = some f →
    s.refresher.watch.lastKey = some f.modified ∨
      s.refresher.watch.lastCertificates = some f.modified →
    ∃ snapshot, (Snapshot.decode f.data f.data).outcome = .ok snapshot ∧
      s.refresher.store.snapshot? = some snapshot
  reads : ∀ f, s.stored path = some f → ∀ answers, s.underWay = some answers →
    ReadsOn path f answers

variable {path : String} {s t : BusySite} {e : Event} {history : List Event} {f : StoredFile}
  {answers : List FileAnswer}

theorem readsOn_of_unseen (unseen : .modified path (.ok f.modified) ∉ answers) :
    ReadsOn path f answers := by
  rintro before after rfl
  exact absurd (List.mem_append_right _ List.mem_cons_self) unseen

/-- What was read on stays so if the next answer shows what stands there. -/
theorem ReadsOn.concat {a : FileAnswer} (reads : ReadsOn path f answers)
    (now : ∀ text, a = .read path (.ok text) → text = f.data) :
    ReadsOn path f (answers ++ [a]) := by
  intro before after joined text mem
  rcases List.eq_nil_or_concat after with rfl | ⟨after, b, rfl⟩
  · cases mem
  · rw [List.concat_eq_append] at joined mem
    rw [← List.cons_append, ← List.append_assoc] at joined
    obtain ⟨earlier, last⟩ := List.append_inj' joined rfl
    rcases List.mem_append.1 mem with mem | mem
    · exact reads before after earlier text mem
    · exact now text ((List.cons.inj last).1.trans (List.mem_singleton.1 mem).symm)

theorem upToDate_start (files : IdentityFiles) (stored : String → Option StoredFile) :
    UpToDate path (start files stored) where
  applied f _ known := by rcases known with known | known <;> cases known
  reads _ _ _ := nofun

/-- What a tick loads under the time of the file as it stands is what stands there. -/
theorem UpToDate.reloaded (upToDate : UpToDate path s) (same : s.files = ⟨path, path⟩)
    {key chain : Moment} {keyText chainText : Octets} {snapshot : Snapshot}
    (ticking : s.underWay =
      some (lookAnswers s.files key chain ++ readAnswers s.files keyText chainText))
    (decodes : (Snapshot.decode keyText chainText).outcome = .ok snapshot) :
    UpToDate path (s.reloaded key chain snapshot) where
  applied f stands known := by
    rw [same] at ticking
    have reads := upToDate.reads f stands _ ticking
    -- Either look shows the time of the file only if both reads come behind it.
    have both : keyText = f.data ∧ chainText = f.data := by
      rcases known with known | known
      · obtain rfl := Option.some.inj known
        have following := reads [] _ rfl
        constructor <;> exact following _ (by simp [readAnswers])
      · obtain rfl := Option.some.inj known
        have following := reads [.modified path (.ok key)] _ rfl
        constructor <;> exact following _ (by simp [readAnswers])
    obtain ⟨rfl, rfl⟩ := both
    exact ⟨snapshot, decodes, rfl⟩
  reads _ _ _ := nofun

/-- A file that is replaced has a time that nobody knows. -/
theorem UpToDate.wrote (upToDate : UpToDate path s) (sound : s.Sound)
    (same : s.files = ⟨path, path⟩) {path' : String} (fresh : f.modified ∉ s.times path') :
    UpToDate path (s.write path' f) := by
  by_cases this : path' = path
  · subst this
    have stands : (s.write path' f).stored path' = some f := write_stored_self
    constructor
    · intro f' stands' known
      obtain rfl := Option.some.inj (stands.symm.trans stands')
      have key := sound.applied.key f.modified
      have chain := sound.applied.chain f.modified
      rw [same] at key chain
      exact absurd (known.elim key chain) fresh
    · intro f' stands' answers ticking
      obtain rfl := Option.some.inj (stands.symm.trans stands')
      exact readsOn_of_unseen fun shown => fresh (sound.shown answers ticking path' _ shown)
  · have stands : (s.write path' f).stored path = s.stored path := write_stored_of_ne (Ne.symm this)
    exact ⟨fun f' stands' => upToDate.applied f' (stands ▸ stands'),
      fun f' stands' => upToDate.reads f' (stands ▸ stands')⟩

theorem UpToDate.step (upToDate : UpToDate path s) (sound : s.Sound)
    (same : s.files = ⟨path, path⟩) (step : Step s e t) : UpToDate path t := by
  cases e with
  | wrote path' file =>
    cases step with
    | wrote _ _ fresh => exact upToDate.wrote sound same fresh
  | started =>
    cases step
    refine ⟨upToDate.applied, fun f _ answers ticking => readsOn_of_unseen ?_⟩
    obtain rfl := Option.some.inj ticking
    exact List.not_mem_nil
  | answered a =>
    cases step with
    | answered ticking asks fits =>
      refine ⟨upToDate.applied, fun f stands answers ticking' => ?_⟩
      obtain rfl := Option.some.inj ticking'
      refine (upToDate.reads f stands _ ticking).concat ?_
      rintro text rfl
      obtain ⟨f', stands', rfl⟩ := fits
      rw [Option.some.inj (stands.symm.trans stands')]
  | ended outcome =>
    rcases ended_cases step with
      ⟨-, rfl⟩ | ⟨-, key, chain, keyText, chainText, snapshot, ticking, decodes, rfl⟩
    · exact ⟨upToDate.applied, fun _ _ _ => nofun⟩
    · exact upToDate.reloaded same ticking decodes

theorem upToDate_of_run {stored : String → Option StoredFile}
    (run : Run Step (start ⟨path, path⟩ stored) history s) : UpToDate path s := by
  refine run.holds_of_steps (P := fun _ => UpToDate path) (upToDate_start _ _) ?_
  intro past e r u earlier upToDate step
  exact upToDate.step ((sound_start _ _).run earlier) (files_of_run earlier) step

/-- The last contents are in force, and a tick under way has read nothing else. -/
structure Settled (path : String) (f : StoredFile) (snapshot : Snapshot) (s : BusySite) : Prop where
  files : s.files = ⟨path, path⟩
  last : s.stored path = some f
  inForce : s.refresher.store.snapshot? = some snapshot
  reads : ∀ answers, s.underWay = some answers →
    ∀ text, .read path (.ok text) ∈ answers → text = f.data

variable {snapshot : Snapshot}

theorem Settled.step (settled : Settled path f snapshot s)
    (usable : (Snapshot.decode f.data f.data).outcome = .ok snapshot) (step : Step s e t)
    (kept : ∀ g, e ≠ .wrote path g) : Settled path f snapshot t := by
  have files := (files_of_step step).trans settled.files
  cases e with
  | wrote path' file =>
    cases step
    have other : path ≠ path' := by
      rintro rfl
      exact kept file rfl
    exact ⟨files, (write_stored_of_ne other).trans settled.last, settled.inForce, settled.reads⟩
  | started =>
    cases step
    refine ⟨files, settled.last, settled.inForce, fun answers ticking => ?_⟩
    obtain rfl := Option.some.inj ticking
    exact nofun
  | answered a =>
    cases step with
    | answered ticking asks fits =>
      refine ⟨files, settled.last, settled.inForce, fun answers ticking' text mem => ?_⟩
      obtain rfl := Option.some.inj ticking'
      rcases List.mem_append.1 mem with mem | mem
      · exact settled.reads _ ticking text mem
      · obtain rfl := List.mem_singleton.1 mem
        obtain ⟨g, stands, rfl⟩ := fits
        rw [Option.some.inj (stands.symm.trans settled.last)]
  | ended outcome =>
    rcases ended_cases step with
      ⟨-, rfl⟩ | ⟨-, key, chain, keyText, chainText, snapshot', ticking, decodes, rfl⟩
    · exact ⟨files, settled.last, settled.inForce, fun _ => nofun⟩
    · rw [settled.files] at ticking
      have keyRead := settled.reads _ ticking keyText (by simp [readAnswers])
      have chainRead := settled.reads _ ticking chainText (by simp [readAnswers])
      rw [keyRead, chainRead, usable] at decodes
      obtain rfl := Except.ok.inj decodes
      exact ⟨files, settled.last, rfl, fun _ => nofun⟩

theorem Settled.run (settled : Settled path f snapshot s)
    (usable : (Snapshot.decode f.data f.data).outcome = .ok snapshot) (run : Run Step s history t)
    (kept : ∀ e ∈ history, ∀ g, e ≠ .wrote path g) : Settled path f snapshot t := by
  induction run with
  | nil s => exact settled
  | cons first rest ih =>
    obtain ⟨keptFirst, keptRest⟩ := List.forall_mem_cons.1 kept
    exact ih (settled.step usable first keptFirst) keptRest

/-- A tick over the last contents settles the site, whether or not it reloads. -/
theorem settled_of_wholeTick {stored : String → Option StoredFile}
    {calls : List Event} {outcome : Except CredentialFailure TickKind}
    (run : Run Step (start ⟨path, path⟩ stored) history s) (last : s.stored path = some f)
    (usable : (Snapshot.decode f.data f.data).outcome = .ok snapshot)
    (quiet : ∀ e ∈ calls, e.Undisturbing ⟨path, path⟩)
    (tick : Run Step s (wholeTick calls outcome) t) : Settled path f snapshot t := by
  have files : s.files = ⟨path, path⟩ := files_of_run run
  have upToDate := upToDate_of_run run
  obtain ⟨idle, stands, u, ticked, same⟩ := ticked_of_wholeTick tick (by rwa [files])
  have lastHere : s.stored s.files.key = some f ∧ s.stored s.files.certificates = some f := by
    rw [files]
    exact ⟨last, last⟩
  have inForce : u.refresher.store.snapshot? = some snapshot := by
    rcases ticked.of_usable lastHere.1 lastHere.2 usable with ⟨shut, -, rfl⟩ | ⟨-, -, rfl⟩
    · obtain ⟨snapshot', decodes, holds⟩ :=
        upToDate.applied f last (WatchState.bothChanged_eq_false_iff.1 shut)
      obtain rfl := Except.ok.inj (usable.symm.trans decodes)
      exact holds
    · rfl
  refine ⟨(files_of_run tick).trans files, ?_, same ▸ inForce, fun answers ticking => ?_⟩
  · exact (stands path (by rw [files]; exact .inl rfl)).trans last
  · rw [idle] at ticking
    cases ticking

/-- However often one file for both was replaced, and whatever mixtures ticks have read meanwhile:
as soon as a tick has run over the last contents, these are in force, and they stay so. -/
theorem combined_file_converges {stored : String → Option StoredFile} {later : List Event}
    {calls : List Event} {outcome : Except CredentialFailure TickKind} {u : BusySite}
    (run : Run Step (start ⟨path, path⟩ stored) history s) (last : s.stored path = some f)
    (usable : (Snapshot.decode f.data f.data).outcome = .ok snapshot)
    (quiet : ∀ e ∈ calls, e.Undisturbing ⟨path, path⟩)
    (tick : Run Step s (wholeTick calls outcome) t) (rest : Run Step t later u)
    (kept : ∀ e ∈ later, ∀ g, e ≠ .wrote path g) :
    u.stored path = some f ∧ u.refresher.store.snapshot? = some snapshot := by
  have settled := (settled_of_wholeTick run last usable quiet tick).run usable rest kept
  exact ⟨settled.last, settled.inForce⟩

/-- The file may be replaced between the two looks of a tick. It applies what it reads, under the
time that is over and the one that is not. -/
theorem exists_split_tick {f' : StoredFile} (same : s.files = ⟨path, path⟩)
    (idle : s.underWay = none) (stands : s.stored path = some f)
    (opened : s.refresher.watch.bothChanged f.modified f'.modified = true)
    (fresh : f'.modified ∉ s.times path)
    (usable : (Snapshot.decode f'.data f'.data).outcome = .ok snapshot) :
    ∃ t, Run Step s
        ([.started, .answered (.modified path (.ok f.modified)), .wrote path f'] ++
          (([.modified path (.ok f'.modified), .read path (.ok f'.data),
            .read path (.ok f'.data)] : List FileAnswer).map .answered ++
            [.ended (.ok .reloaded)])) t ∧
      t.underWay = none ∧ t.stored path = some f' := by
  let more : List FileAnswer :=
    [.modified path (.ok f'.modified), .read path (.ok f'.data), .read path (.ok f'.data)]
  obtain ⟨x, comes, loaded⟩ : ∃ x, (Tick.program s.refresher.watch).Yields
      ([.modified path (.ok f.modified)] ++ more ++ []) x ∧
      x.outcome = .ok (.reloaded f.modified f'.modified snapshot) := by
    have loads := Tick.yields_load opened f'.data f'.data
    rw [show s.refresher.watch.files = ⟨path, path⟩ from same] at loads
    exact ⟨_, loads, by rw [Tick.load_outcome, usable]; rfl⟩
  let r : BusySite := { s with underWay := some [] }
  let r' : BusySite := { s with underWay := some [.modified path (.ok f.modified)] }
  have looked : Step r (.answered (.modified path (.ok f.modified))) r' :=
    .answered r rfl ⟨_, _, comes⟩ ⟨f, stands, rfl⟩
  have wrote : Step r' (.wrote path f') (r'.write path f') := .wrote r' path f' fresh
  have now : (r'.write path f').stored path = some f' := write_stored_self
  have ticking : (r'.write path f').underWay = some [.modified path (.ok f.modified)] := rfl
  have fits : ∀ a ∈ more, (r'.write path f').MayAnswer a :=
    List.forall_mem_cons.2 ⟨⟨f', now, rfl⟩, List.forall_mem_cons.2 ⟨⟨f', now, rfl⟩,
      List.forall_mem_cons.2 ⟨⟨f', now, rfl⟩, nofun⟩⟩⟩
  have calls := exists_calls [] ticking comes fits
  have ends := Step.ended { r'.write path f' with underWay := some _ } rfl comes
  rw [loaded] at ends
  exact ⟨_, Run.append_iff.2 ⟨_, .cons (.started s idle) (.cons looked (.cons wrote (.nil _))),
    Run.concat_iff.2 ⟨_, calls, ends⟩⟩, rfl, now⟩

/-- A file that is replaced between the two looks of the first tick, before a second tick runs. -/
theorem combined_file_converges_split :
    ∃ history s calls outcome t,
      Run Step (start ⟨"identity.pem", "identity.pem"⟩ fun _ =>
        some (CombinedFile.least false ⟨0, 0⟩).toStoredFile) history s ∧
      (∃ e ∈ history, e.isReload = true) ∧
      s.stored "identity.pem" = some (CombinedFile.least true ⟨1, 0⟩).toStoredFile ∧
      Run Step s (wholeTick calls outcome) t ∧
      t.refresher.store.snapshot? = some (CombinedFile.least true ⟨1, 0⟩).snapshot := by
  let f := CombinedFile.least true ⟨1, 0⟩
  have fresh : f.modified ∉ (start ⟨"identity.pem", "identity.pem"⟩ fun _ =>
      some (CombinedFile.least false ⟨0, 0⟩).toStoredFile).times "identity.pem" := by
    decide
  obtain ⟨s, run, idle, last⟩ := exists_split_tick rfl rfl rfl rfl fresh f.decode_snapshot
  have files : s.files = ⟨"identity.pem", "identity.pem"⟩ := files_of_run run
  obtain ⟨calls, outcome, t, quiet, tick⟩ :=
    exists_wholeTick idle (by rw [files]; exact last) (by rw [files]; exact last)
  rw [files] at quiet
  obtain ⟨-, inForce⟩ :=
    combined_file_converges run last f.decode_snapshot quiet tick (.nil t) nofun
  exact ⟨_, s, calls, outcome, t, run, ⟨.ended (.ok .reloaded), by simp, rfl⟩, last, tick, inForce⟩

end CredentialRotation.BusySite
