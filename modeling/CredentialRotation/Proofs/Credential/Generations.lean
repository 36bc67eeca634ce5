import CredentialRotation.Proofs.Credential.Site

/-!
A key file and a certificate file that are replaced generation after generation. What a tick does
depends only on the generations of the two files and on those that were applied last.
-/
namespace CredentialRotation

/-- The files of all generations. No time of modification comes twice. -/
structure Generations where
  key : Nat → KeyFile
  chain : Nat → ChainFile
  key_times : ∀ i j, (key i).modified = (key j).modified → i = j
  chain_times : ∀ i j, (chain i).modified = (chain j).modified → i = j

/-- Generations that share their key and take turns with two certificates. -/
def Generations.alternating : Generations where
  key g := .neighbours ⟨g, 0⟩
  chain g := .least (g % 2 = 0) ⟨g, 0⟩
  key_times := by
    intro i j same
    exact Int.ofNat.inj (congrArg Moment.seconds same)
  chain_times := by
    intro i j same
    exact Int.ofNat.inj (congrArg Moment.seconds same)

namespace Site

/-- Nothing was applied yet. -/
def Fresh (s : Site) : Prop :=
  s.refresher.watch = .fresh s.files ∧ s.refresher.store.snapshot? = none

/-- This pair is in force, and its times are the ones to compare with. -/
def Applied (s : Site) (k : KeyFile) (c : ChainFile) : Prop :=
  s.refresher.store.snapshot? = some (k.pair c) ∧
    s.refresher.watch.lastKey = some k.modified ∧
    s.refresher.watch.lastCertificates = some c.modified

/-- This pair stands in the two watched files. -/
def Stands (s : Site) (k : KeyFile) (c : ChainFile) : Prop :=
  s.stored s.files.key = some k.toStoredFile ∧
    s.stored s.files.certificates = some c.toStoredFile

variable {s t : Site} {outcome : Except CredentialFailure TickKind} {k k' : KeyFile}
  {c c' : ChainFile}

/-- A tick over a usable pair reloads it or finds nothing to do, as the gate has it. -/
theorem Stands.tick (stands : s.Stands k c) (step : Step s (.ticked outcome) t) :
    (s.refresher.watch.bothChanged k.modified c.modified = false ∧ outcome = .ok .unchanged ∧
        t = s) ∨
      (s.refresher.watch.bothChanged k.modified c.modified = true ∧ outcome = .ok .reloaded ∧
        t = s.reload k.modified c.modified (k.pair c)) :=
  (ticked_of_step step).of_usable stands.1 stands.2 (k.decode_pair c)

theorem Stands.wrote_key (stands : s.Stands k c) (distinct : s.files.key ≠ s.files.certificates)
    (step : Step s (.wrote s.files.key k'.toStoredFile) t) : t.Stands k' c := by
  obtain rfl := step_wrote_iff.1 step
  refine ⟨Function.update_self .., ?_⟩
  exact (Function.update_of_ne distinct.symm ..).trans stands.2

theorem Stands.wrote_chain (stands : s.Stands k c) (distinct : s.files.key ≠ s.files.certificates)
    (step : Step s (.wrote s.files.certificates c'.toStoredFile) t) : t.Stands k c' := by
  obtain rfl := step_wrote_iff.1 step
  refine ⟨?_, Function.update_self ..⟩
  exact (Function.update_of_ne distinct ..).trans stands.1

/-- A tick over a usable pair can run, and takes the turn that the gate leaves it. -/
theorem Stands.exists_unchanged (stands : s.Stands k c)
    (gate : s.refresher.watch.bothChanged k.modified c.modified = false) :
    Step s (.ticked (.ok .unchanged)) s := by
  obtain ⟨outcome, t, step⟩ := exists_tick s
  rcases stands.tick step with ⟨-, rfl, rfl⟩ | ⟨opened, -⟩
  · exact step
  · cases gate.symm.trans opened

theorem Stands.exists_reload (stands : s.Stands k c)
    (gate : s.refresher.watch.bothChanged k.modified c.modified = true) :
    Step s (.ticked (.ok .reloaded)) (s.reload k.modified c.modified (k.pair c)) := by
  obtain ⟨outcome, t, step⟩ := exists_tick s
  rcases stands.tick step with ⟨shut, -⟩ | ⟨-, rfl, rfl⟩
  · cases gate.symm.trans shut
  · exact step

theorem applied_reload : (s.reload k.modified c.modified (k.pair c)).Applied k c :=
  ⟨rfl, rfl, rfl⟩

theorem Fresh.of_refresher_eq (fresh : s.Fresh) (same : t.refresher = s.refresher) : t.Fresh := by
  unfold Fresh files at fresh ⊢
  rw [same]
  exact fresh

theorem Applied.of_refresher_eq (applied : s.Applied k c) (same : t.refresher = s.refresher) :
    t.Applied k c := by
  unfold Applied
  rw [same]
  exact applied

/-- To a refresher that has applied nothing, all is new. -/
theorem Fresh.gate (fresh : s.Fresh) (key chain : Moment) :
    s.refresher.watch.bothChanged key chain = true := by
  rw [fresh.1]
  rfl

/-- The gate is open where neither file is the one applied. -/
theorem Applied.gate_iff (applied : s.Applied k c) (key chain : Moment) :
    s.refresher.watch.bothChanged key chain = true ↔ k.modified ≠ key ∧ c.modified ≠ chain := by
  rw [WatchState.bothChanged_eq_true_iff, applied.2.1, applied.2.2]
  simp

/-- As long as the key file is the one applied, the gate stays closed. -/
theorem Applied.gate_same_key (applied : s.Applied k c) (chain : Moment) :
    s.refresher.watch.bothChanged k.modified chain = false :=
  WatchState.bothChanged_eq_false_iff.2 (.inl applied.2.1)

/-- With the gate closed, ticks do nothing for as long as no file is replaced. -/
theorem Stands.ticks_closed (stands : s.Stands k c)
    (gate : s.refresher.watch.bothChanged k.modified c.modified = false) {ticks : List Event}
    (whole : ∀ e ∈ ticks, e.isWrite = false) (run : Run Step s ticks t) :
    t = s ∧ ∀ e ∈ ticks, e = .ticked (.ok .unchanged) := by
  refine ticks_of_quiet ?_ whole run
  intro outcome t step
  rcases stands.tick step with ⟨-, rfl, rfl⟩ | ⟨opened, -⟩
  · exact ⟨rfl, rfl⟩
  · cases gate.symm.trans opened

/-- With the gate open, the first tick applies the pair, and the others do nothing. -/
theorem Stands.ticks_open (stands : s.Stands k c)
    (gate : s.refresher.watch.bothChanged k.modified c.modified = true) {ticks : List Event}
    (nonempty : ticks ≠ []) (whole : ∀ e ∈ ticks, e.isWrite = false) (run : Run Step s ticks t) :
    t = s.reload k.modified c.modified (k.pair c) ∧ ∃ e ∈ ticks, e.isReload = true := by
  obtain ⟨e, ticks, rfl⟩ := List.exists_cons_of_ne_nil nonempty
  obtain ⟨tick, others⟩ := List.forall_mem_cons.1 whole
  obtain ⟨u, step, rest⟩ := Run.cons_iff.1 run
  cases e with
  | wrote path file => cases tick
  | ticked outcome =>
    rcases stands.tick step with ⟨shut, -⟩ | ⟨-, rfl, rfl⟩
    · cases gate.symm.trans shut
    · have standing : (s.reload k.modified c.modified (k.pair c)).Stands k c := stands
      have shut : (s.reload k.modified c.modified (k.pair c)).refresher.watch.bothChanged
          k.modified c.modified = false :=
        WatchState.bothChanged_eq_false_iff.2 (.inl rfl)
      exact ⟨(standing.ticks_closed shut others rest).1, _, List.mem_cons_self, rfl⟩

end Site

namespace Generations
variable (gens : Generations) (files : IdentityFiles)

/-- The key file is replaced by that of a generation. -/
def keyWritten (g : Nat) : Site.Event :=
  .wrote files.key (gens.key g).toStoredFile

/-- The chain file is replaced by that of a generation. -/
def chainWritten (g : Nat) : Site.Event :=
  .wrote files.certificates (gens.chain g).toStoredFile

/-- The files hold generations `i` and `j`. What was never written may be missing. -/
structure Held (i j : Nat) (s : Site) : Prop where
  watched : s.files = files
  key : s.stored files.key = some (gens.key i).toStoredFile ∨
    i = 0 ∧ s.stored files.key = none
  chain : s.stored files.certificates = some (gens.chain j).toStoredFile ∨
    j = 0 ∧ s.stored files.certificates = none

/-- Nothing newer than generations `i` and `j` was applied. -/
def Behind (i j : Nat) (s : Site) : Prop :=
  s.Fresh ∨ ∃ a ≤ i, ∃ b ≤ j, s.Applied (gens.key a) (gens.chain b)

variable {gens files} {i j : Nat} {s t : Site}

theorem held_nothing (files : IdentityFiles) :
    gens.Held files 0 0 (Site.start files fun _ => none) :=
  ⟨rfl, .inr ⟨rfl, rfl⟩, .inr ⟨rfl, rfl⟩⟩

theorem Held.stands_or_incomplete (h : gens.Held files i j s) :
    s.Stands (gens.key i) (gens.chain j) ∨ s.Incomplete := by
  obtain ⟨rfl, key, chain⟩ := h
  rcases key with key | ⟨-, gone⟩
  · rcases chain with chain | ⟨-, gone⟩
    · exact .inl ⟨key, chain⟩
    · exact .inr (.inr gone)
  · exact .inr (.inl gone)

/-- Once a file was written it is there. -/
theorem Held.stands (h : gens.Held files (i + 1) (j + 1) s) :
    s.Stands (gens.key (i + 1)) (gens.chain (j + 1)) := by
  obtain ⟨rfl, key, chain⟩ := h
  exact ⟨key.resolve_right (by simp), chain.resolve_right (by simp)⟩

/-- No two generations have files that look the same. -/
theorem generation_eq {i' j' : Nat} (stands : s.Stands (gens.key i) (gens.chain j))
    (others : s.Stands (gens.key i') (gens.chain j')) : i = i' ∧ j = j' := by
  have key := Option.some.inj (stands.1.symm.trans others.1)
  have chain := Option.some.inj (stands.2.symm.trans others.2)
  exact ⟨gens.key_times i i' (congrArg StoredFile.modified key),
    gens.chain_times j j' (congrArg StoredFile.modified chain)⟩

theorem Held.of_stored_eq (h : gens.Held files i j s) (stored : t.stored = s.stored)
    (watched : t.files = s.files) : gens.Held files i j t := by
  obtain ⟨same, key, chain⟩ := h
  rw [← stored] at key chain
  exact ⟨watched.trans same, key, chain⟩

/-- A tick replaces no file. -/
theorem Held.tick (h : gens.Held files i j s) {outcome : Except CredentialFailure TickKind}
    (step : Site.Step s (.ticked outcome) t) : gens.Held files i j t := by
  cases Site.ticked_of_step step with
  | incomplete gone failure => exact h
  | closed key chain gate => exact h
  | unusable key chain decodes => exact h
  | reloaded key chain gate decodes => exact h.of_stored_eq rfl rfl

theorem Held.wrote_key (distinct : files.key ≠ files.certificates) (h : gens.Held files i j s)
    (step : Site.Step s (gens.keyWritten files (i + 1)) t) :
    gens.Held files (i + 1) j t ∧ t.refresher = s.refresher := by
  obtain rfl := Site.step_wrote_iff.1 step
  obtain ⟨same, -, chain⟩ := h
  refine ⟨⟨same, .inl (Function.update_self ..), ?_⟩, rfl⟩
  dsimp only
  rw [Function.update_of_ne distinct.symm]
  exact chain

theorem Held.wrote_chain (distinct : files.key ≠ files.certificates) (h : gens.Held files i j s)
    (step : Site.Step s (gens.chainWritten files (j + 1)) t) :
    gens.Held files i (j + 1) t ∧ t.refresher = s.refresher := by
  obtain rfl := Site.step_wrote_iff.1 step
  obtain ⟨same, key, -⟩ := h
  refine ⟨⟨same, ?_, .inl (Function.update_self ..)⟩, rfl⟩
  dsimp only
  rw [Function.update_of_ne distinct]
  exact key

theorem Held.exists_wrote_key (distinct : files.key ≠ files.certificates)
    (h : gens.Held files i j s) :
    ∃ t, Site.Step s (gens.keyWritten files (i + 1)) t ∧ gens.Held files (i + 1) j t ∧
      t.refresher = s.refresher := by
  have step : Site.Step s (gens.keyWritten files (i + 1)) _ := .wrote s _ _
  exact ⟨_, step, h.wrote_key distinct step⟩

theorem Held.exists_wrote_chain (distinct : files.key ≠ files.certificates)
    (h : gens.Held files i j s) :
    ∃ t, Site.Step s (gens.chainWritten files (j + 1)) t ∧ gens.Held files i (j + 1) t ∧
      t.refresher = s.refresher := by
  have step : Site.Step s (gens.chainWritten files (j + 1)) _ := .wrote s _ _
  exact ⟨_, step, h.wrote_chain distinct step⟩

/-- The gate compares generations. -/
theorem gate_iff {a b : Nat} (applied : s.Applied (gens.key a) (gens.chain b)) (i j : Nat) :
    s.refresher.watch.bothChanged (gens.key i).modified (gens.chain j).modified = true ↔
      a ≠ i ∧ b ≠ j := by
  rw [applied.gate_iff]
  constructor
  · rintro ⟨newKey, newChain⟩
    exact ⟨fun same => newKey (by rw [same]), fun same => newChain (by rw [same])⟩
  · rintro ⟨newKey, newChain⟩
    exact ⟨mt (gens.key_times a i) newKey, mt (gens.chain_times b j) newChain⟩

theorem Behind.of_refresher_eq (h : gens.Behind i j s) (same : t.refresher = s.refresher) :
    gens.Behind i j t := by
  rcases h with fresh | ⟨a, ha, b, hb, applied⟩
  · exact .inl (fresh.of_refresher_eq same)
  · exact .inr ⟨a, ha, b, hb, applied.of_refresher_eq same⟩

theorem Behind.mono {i' j' : Nat} (h : gens.Behind i j s) (hi : i ≤ i') (hj : j ≤ j') :
    gens.Behind i' j' s := by
  rcases h with fresh | ⟨a, ha, b, hb, applied⟩
  · exact .inl fresh
  · exact .inr ⟨a, Nat.le_trans ha hi, b, Nat.le_trans hb hj, applied⟩

theorem Behind.tick (h : gens.Behind i j s) (held : gens.Held files i j s)
    {outcome : Except CredentialFailure TickKind} (step : Site.Step s (.ticked outcome) t) :
    gens.Behind i j t := by
  rcases held.stands_or_incomplete with stands | gone
  · rcases stands.tick step with ⟨-, -, rfl⟩ | ⟨-, -, rfl⟩
    · exact h
    · exact .inr ⟨i, Nat.le_refl i, j, Nat.le_refl j, Site.applied_reload⟩
  · obtain ⟨rfl, -⟩ := gone.tick step
    exact h

/-- To a refresher that is behind, newer files are new. -/
theorem Behind.gate {i' j' : Nat} (h : gens.Behind i j s) (hi : i < i') (hj : j < j') :
    s.refresher.watch.bothChanged (gens.key i').modified (gens.chain j').modified = true := by
  rcases h with fresh | ⟨a, ha, b, hb, applied⟩
  · exact fresh.gate _ _
  · exact (gate_iff applied i' j').2 ⟨by omega, by omega⟩

end Generations
end CredentialRotation
