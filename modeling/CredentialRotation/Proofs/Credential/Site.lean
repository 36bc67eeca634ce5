import CredentialRotation.Proofs.Credential.Ticks
import CredentialRotation.Proofs.Credential.UsableFiles
import CredentialRotation.Proofs.Runs
import Mathlib.Logic.Function.Basic

/-!
One refresher at work while files are replaced around it. A file is replaced as a whole, and a tick
sees all files as they stand.
-/
namespace CredentialRotation

/-- What a tick leaves of a refresher; a tick that failed came to nothing. -/
def Refresher.after (r : Refresher) : Option Tick → Refresher
  | none => r
  | some tick => r.apply tick

/-- A refresher, and the files that stand where it may look. -/
structure Site where
  stored : String → Option StoredFile
  refresher : Refresher

namespace Site

/-- The files that the refresher watches. -/
def files (s : Site) : IdentityFiles :=
  s.refresher.watch.files

/-- Nothing was loaded yet. -/
def start (files : IdentityFiles) (stored : String → Option StoredFile) : Site :=
  ⟨stored, ⟨.fresh files, .empty⟩⟩

inductive Event
  | wrote (path : String) (file : StoredFile)
  | ticked (outcome : Except CredentialFailure TickKind)

def Event.isWrite : Event → Bool
  | .wrote .. => true
  | .ticked _ => false

def Event.isReload : Event → Bool
  | .ticked (.ok .reloaded) => true
  | _ => false

/-- One of the watched files is not there. -/
def Incomplete (s : Site) : Prop :=
  s.stored s.files.key = none ∨ s.stored s.files.certificates = none

/-- How calls may be answered: by what stands there. Once both watched files are there, no call to
a file that is there fails. -/
def MayAnswer (s : Site) : FileAnswer → Prop
  | .modified path (.ok moment) => ∃ f, s.stored path = some f ∧ f.modified = moment
  | .read path (.ok text) => ∃ f, s.stored path = some f ∧ f.data = text
  | .modified path (.error _) | .read path (.error _) => s.stored path = none ∨ s.Incomplete

/-- A file is replaced, or a tick runs from its start to its end. -/
inductive Step : Site → Event → Site → Prop
  | wrote (s : Site) (path : String) (file : StoredFile) :
    Step s (.wrote path file) ⟨Function.update s.stored path (some file), s.refresher⟩
  | ticked (s : Site) {answers : List FileAnswer} {x : Attempt Tick}
      (fits : ∀ a ∈ answers, s.MayAnswer a)
      (ticks : (Tick.program s.refresher.watch).Yields answers x) :
    Step s (.ticked (x.outcome.map Tick.kind)) ⟨s.stored, s.refresher.after x.outcome.toOption⟩

/-- The site after a reload. -/
def reload (s : Site) (key chain : Moment) (snapshot : Snapshot) : Site :=
  ⟨s.stored, ⟨s.refresher.watch.advance key chain, s.refresher.store.set snapshot⟩⟩

/-- What a tick can come to while its files stand still. -/
inductive Ticked (s : Site) : Except CredentialFailure TickKind → Site → Prop
  | incomplete (gone : s.Incomplete) (failure : CredentialFailure) : Ticked s (.error failure) s
  | closed {k c : StoredFile} (key : s.stored s.files.key = some k)
      (chain : s.stored s.files.certificates = some c)
      (gate : s.refresher.watch.bothChanged k.modified c.modified = false) :
    Ticked s (.ok .unchanged) s
  | unusable {k c : StoredFile} (key : s.stored s.files.key = some k)
      (chain : s.stored s.files.certificates = some c) {failure : CredentialFailure}
      (decodes : (Snapshot.decode k.data c.data).outcome = .error failure) :
    Ticked s (.error failure) s
  | reloaded {k c : StoredFile} (key : s.stored s.files.key = some k)
      (chain : s.stored s.files.certificates = some c)
      (gate : s.refresher.watch.bothChanged k.modified c.modified = true) {snapshot : Snapshot}
      (decodes : (Snapshot.decode k.data c.data).outcome = .ok snapshot) :
    Ticked s (.ok .reloaded) (s.reload k.modified c.modified snapshot)

variable {s t : Site} {outcome : Except CredentialFailure TickKind}

/-- A tick comes to nothing else. -/
theorem ticked_of_step (step : Step s (.ticked outcome) t) : Ticked s outcome t := by
  generalize eventEq : Event.ticked outcome = event at step
  cases step with
  | wrote path file => cases eventEq
  | @ticked answers x fits ticks =>
    obtain rfl := Event.ticked.inj eventEq
    have course := Tick.course_of_yields ticks
    generalize x.outcome = result at course
    cases course with
    | keyUnseen cause => exact .incomplete ((fits _ List.mem_cons_self).elim .inl id) _
    | chainUnseen key cause =>
      exact .incomplete ((fits _ (List.mem_cons_of_mem _ List.mem_cons_self)).elim .inr id) _
    | closed key chain gate =>
      obtain ⟨seenKey, seenChain⟩ := List.forall_mem_cons.1 fits
      obtain ⟨k, standsKey, rfl⟩ := seenKey
      obtain ⟨c, standsChain, rfl⟩ := (List.forall_mem_cons.1 seenChain).1
      exact .closed standsKey standsChain gate
    | @opened key chain gate answers outcome loading =>
      obtain ⟨seenKey, others⟩ := List.forall_mem_cons.1 fits
      obtain ⟨seenChain, reads⟩ := List.forall_mem_cons.1 others
      obtain ⟨k, standsKey, rfl⟩ := seenKey
      obtain ⟨c, standsChain, rfl⟩ := seenChain
      cases loading with
      | keyUnread cause => exact .incomplete ((reads _ List.mem_cons_self).elim .inl id) _
      | chainUnread keyText cause =>
        exact .incomplete ((reads _ (List.mem_cons_of_mem _ List.mem_cons_self)).elim .inr id) _
      | bothRead keyText chainText =>
        -- What was read is what stands there, for the files did not change in between.
        obtain ⟨k', sameKey, rfl⟩ := reads (.read _ (.ok keyText)) List.mem_cons_self
        obtain ⟨c', sameChain, rfl⟩ :=
          reads (.read _ (.ok chainText)) (List.mem_cons_of_mem _ List.mem_cons_self)
        obtain rfl := Option.some.inj (standsKey.symm.trans sameKey)
        obtain rfl := Option.some.inj (standsChain.symm.trans sameChain)
        cases decodes : (Snapshot.decode k.data c.data).outcome with
        | error failure => exact .unusable standsKey standsChain decodes
        | ok snapshot => exact .reloaded standsKey standsChain gate decodes

/-- Over files that hold a usable pair, the gate alone decides what a tick comes to. -/
theorem Ticked.of_usable (ticked : Ticked s outcome t) {k c : StoredFile}
    (key : s.stored s.files.key = some k) (chain : s.stored s.files.certificates = some c)
    {snapshot : Snapshot} (usable : (Snapshot.decode k.data c.data).outcome = .ok snapshot) :
    (s.refresher.watch.bothChanged k.modified c.modified = false ∧ outcome = .ok .unchanged ∧
        t = s) ∨
      (s.refresher.watch.bothChanged k.modified c.modified = true ∧ outcome = .ok .reloaded ∧
        t = s.reload k.modified c.modified snapshot) := by
  cases ticked with
  | incomplete gone failure =>
    rcases gone with gone | gone
    · cases key.symm.trans gone
    · cases chain.symm.trans gone
  | closed key' chain' gate =>
    obtain rfl := Option.some.inj (key.symm.trans key')
    obtain rfl := Option.some.inj (chain.symm.trans chain')
    exact .inl ⟨gate, rfl, rfl⟩
  | unusable key' chain' decodes =>
    obtain rfl := Option.some.inj (key.symm.trans key')
    obtain rfl := Option.some.inj (chain.symm.trans chain')
    cases usable.symm.trans decodes
  | reloaded key' chain' gate decodes =>
    obtain rfl := Option.some.inj (key.symm.trans key')
    obtain rfl := Option.some.inj (chain.symm.trans chain')
    obtain rfl := Except.ok.inj (usable.symm.trans decodes)
    exact .inr ⟨gate, rfl, rfl⟩

/-- Replacing a file leaves the refresher alone. -/
theorem step_wrote_iff {path : String} {file : StoredFile} :
    Step s (.wrote path file) t ↔
      t = ⟨Function.update s.stored path (some file), s.refresher⟩ := by
  constructor
  · intro step
    cases step
    rfl
  · rintro rfl
    exact .wrote s path file

theorem Incomplete.tick (gone : s.Incomplete) (step : Step s (.ticked outcome) t) :
    t = s ∧ (Event.ticked outcome).isReload = false := by
  cases ticked_of_step step with
  | incomplete _ failure => exact ⟨rfl, rfl⟩
  | closed key chain gate => exact ⟨rfl, rfl⟩
  | unusable key chain decodes => exact ⟨rfl, rfl⟩
  | reloaded key chain gate decodes =>
    rcases gone with gone | gone
    · cases key.symm.trans gone
    · cases chain.symm.trans gone

/-- Where one tick would change nothing, several change nothing either. -/
theorem ticks_of_quiet {P : Event → Prop}
    (quiet : ∀ outcome t, Step s (.ticked outcome) t → t = s ∧ P (.ticked outcome))
    {ticks : List Event} (whole : ∀ e ∈ ticks, e.isWrite = false) (run : Run Step s ticks t) :
    t = s ∧ ∀ e ∈ ticks, P e := by
  induction ticks with
  | nil => exact ⟨(Run.nil_iff.1 run).symm, nofun⟩
  | cons e ticks ih =>
    obtain ⟨tick, others⟩ := List.forall_mem_cons.1 whole
    obtain ⟨u, step, rest⟩ := Run.cons_iff.1 run
    cases e with
    | wrote path file => cases tick
    | ticked outcome =>
      obtain ⟨rfl, first⟩ := quiet outcome u step
      obtain ⟨same, following⟩ := ih others rest
      exact ⟨same, List.forall_mem_cons.2 ⟨first, following⟩⟩

/-- As long as a file is missing, ticks come to nothing. -/
theorem Incomplete.ticks (gone : s.Incomplete) {ticks : List Event}
    (whole : ∀ e ∈ ticks, e.isWrite = false) (run : Run Step s ticks t) :
    t = s ∧ ∀ e ∈ ticks, e.isReload = false :=
  ticks_of_quiet (fun _ _ step => gone.tick step) whole run

/-- A tick can run at any time. -/
theorem exists_tick (s : Site) : ∃ outcome t, Step s (.ticked outcome) t := by
  have modified : ∀ path, ∃ answer, s.MayAnswer (.modified path answer) := by
    intro path
    cases stands : s.stored path with
    | none => exact ⟨.error .notFound, .inl stands⟩
    | some f => exact ⟨.ok f.modified, f, stands, rfl⟩
  have read : ∀ path, ∃ answer, s.MayAnswer (.read path answer) := by
    intro path
    cases stands : s.stored path with
    | none => exact ⟨.error .notFound, .inl stands⟩
    | some f => exact ⟨.ok f.data, f, stands, rfl⟩
  obtain ⟨answers, x, ticks, fits⟩ :=
    FileProgram.exists_yields modified read (Tick.program s.refresher.watch)
  exact ⟨_, _, .ticked s fits ticks⟩

end Site
end CredentialRotation
