import CredentialRotation.Proofs.Credential.Generations

/-!
Generations that are written one at a time, each file once and in either order, and seen by a tick
before the next one starts. The pair in force is then always of one generation.
-/
namespace CredentialRotation.Generations

open Site (Step start)

/-- No file was replaced since the last tick. -/
def Rested (past : List Site.Event) : Prop :=
  past = [] ∨ ∃ outcome, past.getLast? = some (.ticked outcome)

variable (gens : Generations) (files : IdentityFiles) (stored : String → Option StoredFile)

/-- Histories in which `i` keys and `j` chains were written. A file is written while it is a
generation behind the other, or, to start a generation, after a tick. The first tick comes while
both files hold the same generation. -/
inductive Paced : List Site.Event → Nat → Nat → Prop
  | start : Paced [] 0 0
  | key {past : List Site.Event} {i j : Nat} (earlier : Paced past i j)
      (turn : i < j ∨ i = j ∧ Rested past) :
    Paced (past ++ [gens.keyWritten files (i + 1)]) (i + 1) j
  | chain {past : List Site.Event} {i j : Nat} (earlier : Paced past i j)
      (turn : j < i ∨ i = j ∧ Rested past) :
    Paced (past ++ [gens.chainWritten files (j + 1)]) i (j + 1)
  | tick {past : List Site.Event} {i j : Nat} (earlier : Paced past i j)
      (outcome : Except CredentialFailure TickKind)
      (ready : (∃ e ∈ past, e.isWrite = false) ∨
        i = j ∧ (i = 0 → ¬ (Site.start files stored).Incomplete)) :
    Paced (past ++ [.ticked outcome]) i j

/-- What paced histories keep up. From the first tick on the pair in force is of one generation, the
files are at most one generation ahead of it, and right after a tick not both of them. -/
inductive Coherent (past : List Site.Event) (i j : Nat) (s : Site) : Prop
  | unseen (whole : ∀ e ∈ past, e.isWrite = true) (fresh : s.Fresh)
      (still : i = 0 → j = 0 → s = Site.start files stored)
  | seen (g : Nat) (ticked : ∃ e ∈ past, e.isWrite = false)
      (stands : s.Stands (gens.key i) (gens.chain j))
      (applied : s.Applied (gens.key g) (gens.chain g)) (keyNear : i = g ∨ i = g + 1)
      (chainNear : j = g ∨ j = g + 1) (rested : Rested past → i = g ∨ j = g)

variable {gens files stored} {past history : List Site.Event} {i j : Nat} {s t : Site}

private theorem not_rested_wrote (path : String) (file : StoredFile) :
    ¬ Rested (past ++ [.wrote path file]) := by
  rintro (empty | ⟨outcome, last⟩)
  · cases (List.append_eq_nil_iff.1 empty).2
  · rw [List.getLast?_concat] at last
    cases Option.some.inj last

private theorem whole_concat {path : String} {file : StoredFile}
    (whole : ∀ e ∈ past, e.isWrite = true) :
    ∀ e ∈ past ++ [Site.Event.wrote path file], e.isWrite = true := by
  intro e mem
  rcases List.mem_append.1 mem with mem | mem
  · exact whole e mem
  · rw [List.mem_singleton.1 mem]
    rfl

private theorem ticked_concat {e : Site.Event} (ticked : ∃ e ∈ past, e.isWrite = false) :
    ∃ f ∈ past ++ [e], f.isWrite = false := by
  obtain ⟨f, mem, tick⟩ := ticked
  exact ⟨f, List.mem_append_left _ mem, tick⟩

/-- A write keeps up what holds, if it brings no file too far ahead of the pair in force. -/
theorem Coherent.wrote {path : String} {file : StoredFile} {i' j' : Nat}
    (c : gens.Coherent files stored past i j s) (same : t.refresher = s.refresher)
    (new : i' ≠ 0 ∨ j' ≠ 0)
    (stands : s.Stands (gens.key i) (gens.chain j) → t.Stands (gens.key i') (gens.chain j'))
    (near : ∀ g, (i = g ∨ i = g + 1) → (j = g ∨ j = g + 1) → (Rested past → i = g ∨ j = g) →
      (i' = g ∨ i' = g + 1) ∧ (j' = g ∨ j' = g + 1)) :
    gens.Coherent files stored (past ++ [.wrote path file]) i' j' t := by
  cases c with
  | unseen whole fresh still =>
    exact .unseen (whole_concat whole) (fresh.of_refresher_eq same) (by omega)
  | seen g ticked standing applied keyNear chainNear rested =>
    obtain ⟨keyNext, chainNext⟩ := near g keyNear chainNear rested
    exact .seen g (ticked_concat ticked) (stands standing) (applied.of_refresher_eq same) keyNext
      chainNext fun idle => absurd idle (not_rested_wrote path file)

theorem Coherent.wrote_key (distinct : files.key ≠ files.certificates)
    (held : gens.Held files i j s) (c : gens.Coherent files stored past i j s)
    (turn : i < j ∨ i = j ∧ Rested past) (step : Step s (gens.keyWritten files (i + 1)) t) :
    gens.Coherent files stored (past ++ [gens.keyWritten files (i + 1)]) (i + 1) j t := by
  obtain ⟨-, same⟩ := held.wrote_key distinct step
  obtain rfl := held.watched
  refine c.wrote same (by omega) (fun stands => stands.wrote_key distinct step) ?_
  intro g keyNear chainNear rested
  rcases turn with less | ⟨level, idle⟩
  · omega
  · have := rested idle
    omega

theorem Coherent.wrote_chain (distinct : files.key ≠ files.certificates)
    (held : gens.Held files i j s) (c : gens.Coherent files stored past i j s)
    (turn : j < i ∨ i = j ∧ Rested past) (step : Step s (gens.chainWritten files (j + 1)) t) :
    gens.Coherent files stored (past ++ [gens.chainWritten files (j + 1)]) i (j + 1) t := by
  obtain ⟨-, same⟩ := held.wrote_chain distinct step
  obtain rfl := held.watched
  refine c.wrote same (by omega) (fun stands => stands.wrote_chain distinct step) ?_
  intro g keyNear chainNear rested
  rcases turn with less | ⟨level, idle⟩
  · omega
  · have := rested idle
    omega

theorem Coherent.tick (before : gens.Held files 0 0 (start files stored))
    (held : gens.Held files i j s) (c : gens.Coherent files stored past i j s)
    {outcome : Except CredentialFailure TickKind}
    (ready : (∃ e ∈ past, e.isWrite = false) ∨
      i = j ∧ (i = 0 → ¬ (start files stored).Incomplete))
    (step : Step s (.ticked outcome) t) :
    gens.Coherent files stored (past ++ [.ticked outcome]) i j t := by
  have ticked : ∃ e ∈ past ++ [Site.Event.ticked outcome], e.isWrite = false :=
    ⟨_, List.mem_append_right _ List.mem_cons_self, rfl⟩
  cases c with
  | unseen whole fresh still =>
    obtain ⟨rfl, complete⟩ : i = j ∧ (i = 0 → ¬ (start files stored).Incomplete) := by
      refine ready.resolve_left ?_
      rintro ⟨e, mem, tick⟩
      cases (whole e mem).symm.trans tick
    have stands : s.Stands (gens.key i) (gens.chain i) := by
      cases i with
      | zero =>
        obtain rfl := still rfl rfl
        exact before.stands_or_incomplete.resolve_right (complete rfl)
      | succ i => exact held.stands
    rcases stands.tick step with ⟨shut, -⟩ | ⟨-, -, rfl⟩
    · cases shut.symm.trans (fresh.gate _ _)
    · exact .seen i ticked stands Site.applied_reload (.inl rfl) (.inl rfl) fun _ => .inl rfl
  | seen g _ stands applied keyNear chainNear rested =>
    rcases stands.tick step with ⟨shut, -, rfl⟩ | ⟨opened, -, rfl⟩
    · refine .seen g ticked stands applied keyNear chainNear fun _ => ?_
      -- The gate is closed, so one of the two files is still the one applied.
      have same := mt (gate_iff applied i j).2 (ne_true_of_eq_false shut)
      omega
    · obtain ⟨newKey, newChain⟩ := (gate_iff applied i j).1 opened
      obtain rfl : i = g + 1 := keyNear.resolve_left newKey.symm
      obtain rfl : j = g + 1 := chainNear.resolve_left newChain.symm
      exact .seen (g + 1) ticked stands Site.applied_reload (.inl rfl) (.inl rfl) fun _ => .inl rfl

theorem coherent_of_run (distinct : files.key ≠ files.certificates)
    (before : gens.Held files 0 0 (start files stored))
    (paced : gens.Paced files stored history i j) :
    ∀ s, Run Step (start files stored) history s →
      gens.Held files i j s ∧ gens.Coherent files stored history i j s := by
  induction paced with
  | start =>
    intro s run
    obtain rfl := Run.nil_iff.1 run
    exact ⟨before, .unseen nofun ⟨rfl, rfl⟩ fun _ _ => rfl⟩
  | key earlier turn ih =>
    intro s run
    obtain ⟨r, past, step⟩ := Run.concat_iff.1 run
    obtain ⟨held, c⟩ := ih r past
    exact ⟨(held.wrote_key distinct step).1, c.wrote_key distinct held turn step⟩
  | chain earlier turn ih =>
    intro s run
    obtain ⟨r, past, step⟩ := Run.concat_iff.1 run
    obtain ⟨held, c⟩ := ih r past
    exact ⟨(held.wrote_chain distinct step).1, c.wrote_chain distinct held turn step⟩
  | tick earlier outcome ready ih =>
    intro s run
    obtain ⟨r, past, step⟩ := Run.concat_iff.1 run
    obtain ⟨held, c⟩ := ih r past
    exact ⟨held.tick step, c.tick before held ready step⟩

/-- Over a paced history the pair in force is always of one generation, the one whose times the
refresher compares with; and after a tick over two files of one generation it is that one. -/
theorem paced_coherent (distinct : files.key ≠ files.certificates)
    (before : gens.Held files 0 0 (start files stored))
    (paced : gens.Paced files stored history i j) (run : Run Step (start files stored) history s) :
    ((∀ e ∈ history, e.isWrite = true) ∧ s.Fresh ∨
        ∃ g, s.Applied (gens.key g) (gens.chain g)) ∧
      ∀ g, s.Stands (gens.key g) (gens.chain g) →
        (∃ outcome, history.getLast? = some (.ticked outcome)) →
          s.Applied (gens.key g) (gens.chain g) := by
  obtain ⟨-, c⟩ := coherent_of_run distinct before paced s run
  cases c with
  | unseen whole fresh still =>
    refine ⟨.inl ⟨whole, fresh⟩, ?_⟩
    rintro g - ⟨outcome, last⟩
    cases whole _ (List.mem_of_getLast? last)
  | seen g ticked stands applied keyNear chainNear rested =>
    refine ⟨.inr ⟨g, applied⟩, ?_⟩
    intro g' level last
    obtain ⟨keyLevel, chainLevel⟩ := generation_eq stands level
    have notBoth := rested (.inr last)
    obtain rfl : g = g' := by omega
    exact applied

/-- Two generations in different orders, with ticks behind the first, between the writes of the
second and behind it. -/
theorem exists_paced (gens : Generations) (distinct : files.key ≠ files.certificates)
    (before : gens.Held files 0 0 (start files stored)) :
    ∃ history s, gens.Paced files stored history 2 2 ∧ Run Step (start files stored) history s ∧
      s.Stands (gens.key 2) (gens.chain 2) ∧
      ∃ outcome, history.getLast? = some (.ticked outcome) := by
  obtain ⟨s₁, step₁, held₁, same₁⟩ := before.exists_wrote_key distinct
  obtain ⟨s₂, step₂, held₂, same₂⟩ := held₁.exists_wrote_chain distinct
  obtain ⟨o₃, s₃, step₃⟩ := Site.exists_tick s₂
  obtain ⟨s₄, step₄, held₄, same₄⟩ := (held₂.tick step₃).exists_wrote_chain distinct
  obtain ⟨o₅, s₅, step₅⟩ := Site.exists_tick s₄
  obtain ⟨s₆, step₆, held₆, same₆⟩ := (held₄.tick step₅).exists_wrote_key distinct
  obtain ⟨o₇, s₇, step₇⟩ := Site.exists_tick s₆
  have first : gens.Paced files stored _ 1 1 :=
    Paced.start.key (.inr ⟨rfl, .inl rfl⟩)
      |>.chain (.inl (by decide))
      |>.tick o₃ (.inr ⟨rfl, nofun⟩)
  have second : gens.Paced files stored _ 2 2 :=
    first.chain (.inr ⟨rfl, .inr ⟨o₃, rfl⟩⟩)
      |>.tick o₅ (.inl ⟨.ticked o₃, by simp, rfl⟩)
      |>.key (.inl (by decide))
      |>.tick o₇ (.inl ⟨.ticked o₃, by simp, rfl⟩)
  refine ⟨_, s₇, second, ?_, (held₆.tick step₇).stands, o₇, rfl⟩
  exact .cons step₁ (.cons step₂ (.cons step₃ (.cons step₄ (.cons step₅ (.cons step₆
    (.cons step₇ (.nil s₇)))))))

/-- Two such generations end with the second in force. -/
theorem paced_coherent_alternating :
    ∃ history s, alternating.Paced pemFiles (fun _ => none) history 2 2 ∧
      Run Step (start pemFiles fun _ => none) history s ∧
      ((∀ e ∈ history, e.isWrite = true) ∧ s.Fresh ∨
        ∃ g, s.Applied (alternating.key g) (alternating.chain g)) ∧
      s.Applied (alternating.key 2) (alternating.chain 2) := by
  obtain ⟨history, s, paced, run, stands, ended⟩ :=
    exists_paced alternating (by decide) (held_nothing pemFiles)
  obtain ⟨coherent, latest⟩ := paced_coherent (by decide) (held_nothing pemFiles) paced run
  exact ⟨history, s, paced, run, coherent, latest 2 stands ended⟩

end CredentialRotation.Generations
