import CredentialRotation.Proofs.Credential.Generations

/-!
Rotations that write the key of each generation before its chain, with ticks at any time. Which pair
is in force in the end is settled by the ticks between the last two writes.
-/
namespace CredentialRotation.Generations

open Site (Step start)

variable (gens : Generations) (files : IdentityFiles)

/-- What is written for generations 1 to `n`. -/
def writes : Nat → List Site.Event
  | 0 => []
  | n + 1 => writes n ++ [gens.keyWritten files (n + 1), gens.chainWritten files (n + 1)]

variable {gens files} {stored : String → Option StoredFile} {s t : Site}
  {past history : List Site.Event} {n : Nat}

private theorem eq_of_concat {e f : Site.Event} {es fs : List Site.Event}
    (h : es ++ [e] = fs ++ [f]) : es = fs ∧ e = f := by
  obtain ⟨rest, last⟩ := List.append_inj' h rfl
  exact ⟨rest, (List.cons.inj last).1⟩

private theorem writes_succ :
    gens.writes files (n + 1) =
      (gens.writes files n ++ [gens.keyWritten files (n + 1)]) ++
        [gens.chainWritten files (n + 1)] := by
  rw [writes, List.append_assoc]
  rfl

variable (gens files) in
/-- What a rotation keeps up: the files hold what was written last, and the refresher has applied
nothing newer. -/
structure Underway (past : List Site.Event) (s : Site) : Prop where
  whole : ∀ n, past.filter Site.Event.isWrite = gens.writes files n →
    gens.Held files n n s ∧ gens.Behind n n s
  midway : ∀ n,
    past.filter Site.Event.isWrite = gens.writes files n ++ [gens.keyWritten files (n + 1)] →
      gens.Held files (n + 1) n s ∧ gens.Behind (n + 1) n s

theorem underway_start (before : gens.Held files 0 0 (start files stored)) :
    gens.Underway files [] (start files stored) := by
  refine ⟨?_, ?_⟩
  · intro n written
    cases n with
    | zero => exact ⟨before, .inl ⟨rfl, rfl⟩⟩
    | succ n => cases (List.append_eq_nil_iff.1 written.symm).2
  · intro n written
    cases (List.append_eq_nil_iff.1 written.symm).2

theorem Underway.tick (u : gens.Underway files past s)
    {outcome : Except CredentialFailure TickKind} (step : Step s (.ticked outcome) t) :
    gens.Underway files (past ++ [.ticked outcome]) t := by
  have nothing : (past ++ [Site.Event.ticked outcome]).filter Site.Event.isWrite =
      past.filter Site.Event.isWrite := by
    simp [Site.Event.isWrite]
  refine ⟨?_, ?_⟩
  · intro n written
    rw [nothing] at written
    obtain ⟨held, behind⟩ := u.whole n written
    exact ⟨held.tick step, behind.tick held step⟩
  · intro n written
    rw [nothing] at written
    obtain ⟨held, behind⟩ := u.midway n written
    exact ⟨held.tick step, behind.tick held step⟩

theorem Underway.wrote (distinct : files.key ≠ files.certificates) (u : gens.Underway files past s)
    {path : String} {file : StoredFile} (step : Step s (.wrote path file) t) :
    gens.Underway files (past ++ [.wrote path file]) t := by
  have one : (past ++ [Site.Event.wrote path file]).filter Site.Event.isWrite =
      past.filter Site.Event.isWrite ++ [.wrote path file] := by
    simp [Site.Event.isWrite]
  refine ⟨?_, ?_⟩
  · intro n written
    rw [one] at written
    cases n with
    | zero => cases (List.append_eq_nil_iff.1 written).2
    | succ n =>
      rw [writes_succ] at written
      obtain ⟨earlier, last⟩ := eq_of_concat written
      obtain ⟨held, behind⟩ := u.midway n earlier
      rw [last] at step
      obtain ⟨next, same⟩ := held.wrote_chain distinct step
      exact ⟨next, (behind.of_refresher_eq same).mono (Nat.le_refl _) (Nat.le_succ n)⟩
  · intro n written
    rw [one] at written
    obtain ⟨earlier, last⟩ := eq_of_concat written
    obtain ⟨held, behind⟩ := u.whole n earlier
    rw [last] at step
    obtain ⟨next, same⟩ := held.wrote_key distinct step
    exact ⟨next, (behind.of_refresher_eq same).mono (Nat.le_succ n) (Nat.le_refl _)⟩

theorem underway_of_run (distinct : files.key ≠ files.certificates)
    (before : gens.Held files 0 0 (start files stored))
    (run : Run Step (start files stored) past s) : gens.Underway files past s := by
  refine run.holds_of_steps (underway_start before) ?_
  intro past e s t _ u step
  cases e with
  | wrote path file => exact u.wrote distinct step
  | ticked outcome => exact u.tick step

/-- Around its last two writes a rotation falls into three parts. -/
theorem exists_split (rotates : history.filter Site.Event.isWrite = gens.writes files (n + 1)) :
    ∃ past between after, history = past ++ gens.keyWritten files (n + 1) ::
        (between ++ gens.chainWritten files (n + 1) :: after) ∧
      past.filter Site.Event.isWrite = gens.writes files n ∧
      (∀ e ∈ between, e.isWrite = false) ∧ ∀ e ∈ after, e.isWrite = false := by
  obtain ⟨first, rest, rfl, hfirst, hrest⟩ := List.filter_eq_append_iff.1 rotates
  obtain ⟨quiet, rest, rfl, hquiet, -, hrest⟩ := List.filter_eq_cons_iff.1 hrest
  obtain ⟨between, after, rfl, hbetween, -, hafter⟩ := List.filter_eq_cons_iff.1 hrest
  refine ⟨first ++ quiet, between, after, (List.append_assoc ..).symm, ?_, ?_, ?_⟩
  · rw [List.filter_append, hfirst, List.filter_eq_nil_iff.2 hquiet, List.append_nil]
  · exact fun e mem => eq_false_of_ne_true (hbetween e mem)
  · exact fun e mem => eq_false_of_ne_true (List.filter_eq_nil_iff.1 hafter e mem)

/-- The ticks between the last two writes leave the refresher as it was, or apply the new key with
the chain before it. -/
theorem ticks_between (held : gens.Held files (n + 1) n s) {between : List Site.Event}
    (whole : ∀ e ∈ between, e.isWrite = false) (run : Run Step s between t) :
    (t = s ∧ ∀ e ∈ between, e.isReload = false) ∨
      (t.stored = s.stored ∧ t.files = s.files ∧
        t.Applied (gens.key (n + 1)) (gens.chain n) ∧ ∃ e ∈ between, e.isReload = true) := by
  rcases held.stands_or_incomplete with stands | gone
  · cases gate : s.refresher.watch.bothChanged (gens.key (n + 1)).modified
        (gens.chain n).modified with
    | false =>
      obtain ⟨same, quiet⟩ := stands.ticks_closed gate whole run
      refine .inl ⟨same, ?_⟩
      intro e mem
      rw [quiet e mem]
      rfl
    | true =>
      by_cases none : between = []
      · subst none
        exact .inl ⟨(Run.nil_iff.1 run).symm, nofun⟩
      · obtain ⟨rfl, reloads⟩ := stands.ticks_open gate none whole run
        exact .inr ⟨rfl, rfl, Site.applied_reload, reloads⟩
  · exact .inl (gone.ticks whole run)

variable (gens files) in
/-- What a rotation to generation `n + 1` ends with: the last pair if no tick between the last two
writes reloaded, and otherwise the last key with the chain before, from then on for good. -/
def Settled (n : Nat) (history : List Site.Event) (s : Site) : Prop :=
  ∃ past between after, history = past ++ gens.keyWritten files (n + 1) ::
      (between ++ gens.chainWritten files (n + 1) :: after) ∧
    (∀ e ∈ between, e.isWrite = false) ∧ (∀ e ∈ after, e.isWrite = false) ∧
    ((∀ e ∈ between, e.isReload = false) ∧
        s.Applied (gens.key (n + 1)) (gens.chain (n + 1)) ∨
      (∃ e ∈ between, e.isReload = true) ∧ s.Applied (gens.key (n + 1)) (gens.chain n) ∧
        ∀ later t, (∀ e ∈ later, e.isWrite = false) → Run Step s later t →
          t = s ∧ ∀ e ∈ later, e = .ticked (.ok .unchanged))

/-- A rotation that is followed by a tick ends with its last key in force, together with its last
chain or with the one before. -/
theorem rotation_settles (distinct : files.key ≠ files.certificates)
    (before : gens.Held files 0 0 (start files stored))
    (run : Run Step (start files stored) history s)
    (rotates : history.filter Site.Event.isWrite = gens.writes files (n + 1))
    (ended : ∃ outcome, history.getLast? = some (.ticked outcome)) :
    gens.Settled files n history s := by
  obtain ⟨past, between, after, rfl, written, wholeBetween, wholeAfter⟩ := exists_split rotates
  refine ⟨past, between, after, rfl, wholeBetween, wholeAfter, ?_⟩
  have ticked : after ≠ [] := by
    rintro rfl
    obtain ⟨outcome, last⟩ := ended
    simp [chainWritten, List.getLast?_cons] at last
  obtain ⟨s₀, runPast, run⟩ := Run.append_iff.1 run
  obtain ⟨s₁, stepKey, run⟩ := Run.cons_iff.1 run
  obtain ⟨s₂, runBetween, run⟩ := Run.append_iff.1 run
  obtain ⟨s₃, stepChain, runAfter⟩ := Run.cons_iff.1 run
  obtain ⟨held₀, behind⟩ := (underway_of_run distinct before runPast).whole n written
  obtain ⟨held₁, same₁⟩ := held₀.wrote_key distinct stepKey
  rcases ticks_between held₁ wholeBetween runBetween with
    ⟨rfl, quiet⟩ | ⟨stored₂, files₂, applied, reloads⟩
  · obtain ⟨held₃, same₃⟩ := held₁.wrote_chain distinct stepChain
    have gate := (behind.of_refresher_eq (same₃.trans same₁)).gate (Nat.lt_succ_self n)
      (Nat.lt_succ_self n)
    obtain ⟨rfl, -⟩ := held₃.stands.ticks_open gate ticked wholeAfter runAfter
    exact .inl ⟨quiet, Site.applied_reload⟩
  · have held₂ := held₁.of_stored_eq stored₂ files₂
    obtain ⟨held₃, same₃⟩ := held₂.wrote_chain distinct stepChain
    have applied₃ := applied.of_refresher_eq same₃
    have gate := applied₃.gate_same_key (gens.chain (n + 1)).modified
    obtain ⟨rfl, -⟩ := held₃.stands.ticks_closed gate wholeAfter runAfter
    refine .inr ⟨reloads, applied₃, ?_⟩
    intro later t whole rest
    exact held₃.stands.ticks_closed gate whole rest

/-- Of every two generations, a tick between the writes of the second can put its key in force with
the chain of the first. -/
theorem exists_foreign (gens : Generations) (distinct : files.key ≠ files.certificates)
    (before : gens.Held files 0 0 (start files stored)) :
    ∃ history s, Run Step (start files stored) history s ∧
      history.filter Site.Event.isWrite = gens.writes files 2 ∧
      (∃ outcome, history.getLast? = some (.ticked outcome)) ∧
      s.Applied (gens.key 2) (gens.chain 1) := by
  obtain ⟨s₁, step₁, held₁, same₁⟩ := before.exists_wrote_key distinct
  obtain ⟨s₂, step₂, held₂, same₂⟩ := held₁.exists_wrote_chain distinct
  obtain ⟨s₃, step₃, held₃, same₃⟩ := held₂.exists_wrote_key distinct
  have fresh : gens.Behind 0 0 (start files stored) := .inl ⟨rfl, rfl⟩
  have opened := (fresh.of_refresher_eq (same₃.trans (same₂.trans same₁))).gate
    (show 0 < 2 by decide) (show 0 < 1 by decide)
  have step₄ := held₃.stands.exists_reload opened
  obtain ⟨s₅, step₅, held₅, same₅⟩ := (held₃.tick step₄).exists_wrote_chain distinct
  have applied := Site.applied_reload.of_refresher_eq same₅
  have step₆ := held₅.stands.exists_unchanged (applied.gate_same_key _)
  refine ⟨_, _, .cons step₁ (.cons step₂ (.cons step₃ (.cons step₄ (.cons step₅
    (.cons step₆ (.nil _)))))), rfl, ⟨_, rfl⟩, applied⟩

/-- Two generations with a tick between the writes of the second. -/
theorem rotation_settles_alternating :
    ∃ history s, Run Step (start pemFiles fun _ => none) history s ∧
      history.filter Site.Event.isWrite = alternating.writes pemFiles 2 ∧
      alternating.Settled pemFiles 1 history s := by
  obtain ⟨history, s, run, rotates, ended, -⟩ :=
    exists_foreign alternating (by decide) (held_nothing pemFiles)
  exact ⟨history, s, run, rotates,
    rotation_settles (by decide) (held_nothing pemFiles) run rotates ended⟩

/-- A rotation need not end with its last pair in force, however many ticks follow it. -/
theorem rotation_need_not_converge :
    ¬ ∀ (files : IdentityFiles) (gens : Generations) (stored : String → Option StoredFile)
        (history : List Site.Event) (s : Site) (n : Nat),
      files.key ≠ files.certificates → gens.Held files 0 0 (start files stored) →
      Run Step (start files stored) history s →
      history.filter Site.Event.isWrite = gens.writes files (n + 1) →
      (∃ outcome, history.getLast? = some (.ticked outcome)) →
      s.refresher.store.snapshot? = some ((gens.key (n + 1)).pair (gens.chain (n + 1))) := by
  intro converges
  obtain ⟨history, s, run, rotates, ended, applied, -⟩ :=
    exists_foreign alternating (by decide) (held_nothing pemFiles)
  have latest := converges pemFiles alternating _ history s 1 (by decide) (held_nothing pemFiles)
    run rotates ended
  have same := Option.some.inj (applied.symm.trans latest)
  have serials : (alternating.chain 1).chain.serials = (alternating.chain 2).chain.serials :=
    congrArg (fun snapshot => snapshot.chain.serials) same
  exact absurd serials (by decide)

end CredentialRotation.Generations
