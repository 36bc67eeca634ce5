import CredentialRotation.Proofs.Credential.Site

/-!
A refresher whose calls come one at a time. Between any two of them a file may be replaced, so one
tick may see a file as it was and read it as it has become. A tick that nothing disturbs is a tick
that sees all files as they stand.
-/
namespace CredentialRotation

/-- A site where a tick may be under way, with the answers its calls were given so far. Of each file
all times of modification are known that it ever had. -/
structure BusySite extends Site where
  times : String → List Moment
  underWay : Option (List FileAnswer)

namespace BusySite

/-- Nothing was loaded yet, and no tick has started. -/
def start (files : IdentityFiles) (stored : String → Option StoredFile) : BusySite where
  toSite := .start files stored
  times path := ((stored path).map StoredFile.modified).toList
  underWay := none

inductive Event
  | wrote (path : String) (file : StoredFile)
  | started
  | answered (answer : FileAnswer)
  | ended (outcome : Except CredentialFailure TickKind)

/-- A call for a time of modification. -/
def Event.isLook : Event → Bool
  | .answered (.modified ..) => true
  | _ => false

def Event.isReload : Event → Bool
  | .ended (.ok .reloaded) => true
  | _ => false

/-- How calls may be answered: any of them may fail, and the others see what stands there. -/
def MayAnswer (s : BusySite) : FileAnswer → Prop
  | .modified path (.ok moment) => ∃ f, s.stored path = some f ∧ f.modified = moment
  | .read path (.ok text) => ∃ f, s.stored path = some f ∧ f.data = text
  | .modified _ (.error _) | .read _ (.error _) => True

/-- A file is replaced as a whole. -/
def write (s : BusySite) (path : String) (file : StoredFile) : BusySite :=
  { s with
    stored := Function.update s.stored path (some file)
    times := Function.update s.times path (file.modified :: s.times path) }

/-- A file is replaced at a time that it never had, or a tick starts, makes its next call, or comes
to its end. Ticks do not overlap. -/
inductive Step : BusySite → Event → BusySite → Prop
  | wrote (s : BusySite) (path : String) (file : StoredFile)
      (fresh : file.modified ∉ s.times path) :
    Step s (.wrote path file) (s.write path file)
  | started (s : BusySite) (idle : s.underWay = none) :
    Step s .started { s with underWay := some [] }
  | answered (s : BusySite) {answers : List FileAnswer} {a : FileAnswer}
      (ticking : s.underWay = some answers)
      (asks : (Tick.program s.refresher.watch).Asks answers a) (fits : s.MayAnswer a) :
    Step s (.answered a) { s with underWay := some (answers ++ [a]) }
  | ended (s : BusySite) {answers : List FileAnswer} {x : Attempt Tick}
      (ticking : s.underWay = some answers)
      (comes : (Tick.program s.refresher.watch).Yields answers x) :
    Step s (.ended (x.outcome.map Tick.kind))
      { s with refresher := s.refresher.after x.outcome.toOption, underWay := none }

/-- The answers to both looks of a tick. -/
def lookAnswers (files : IdentityFiles) (key chain : Moment) : List FileAnswer :=
  [.modified files.key (.ok key), .modified files.certificates (.ok chain)]

/-- The answers to both reads of a tick. -/
def readAnswers (files : IdentityFiles) (keyText chainText : Octets) : List FileAnswer :=
  [.read files.key (.ok keyText), .read files.certificates (.ok chainText)]

/-- The site after a reload. -/
def reloaded (s : BusySite) (key chain : Moment) (snapshot : Snapshot) : BusySite :=
  { s with toSite := s.reload key chain snapshot, underWay := none }

variable {s t : BusySite} {e : Event} {history : List Event}

/-- A tick leaves the refresher as it was, or with the pair that it read, under the times that it
was shown before. -/
theorem ended_cases {outcome : Except CredentialFailure TickKind}
    (step : Step s (.ended outcome) t) :
    (Event.ended outcome).isReload = false ∧ t = { s with underWay := none } ∨
      (Event.ended outcome).isReload = true ∧ ∃ key chain keyText chainText snapshot,
        s.underWay = some (lookAnswers s.files key chain ++ readAnswers s.files keyText chainText) ∧
        (Snapshot.decode keyText chainText).outcome = .ok snapshot ∧
        t = s.reloaded key chain snapshot := by
  generalize eventEq : Event.ended outcome = event at step
  cases step with
  | wrote path file fresh => cases eventEq
  | started idle => cases eventEq
  | answered ticking asks fits => cases eventEq
  | @ended answers x ticking comes =>
    have course := Tick.course_of_yields comes
    generalize x.outcome = result at course
    cases result with
    | error failure => exact .inl ⟨rfl, rfl⟩
    | ok tick =>
      cases tick with
      | unchanged => exact .inl ⟨rfl, rfl⟩
      | reloaded key chain snapshot =>
        obtain ⟨keyText, chainText, rfl, decodes⟩ := course.reloaded
        exact .inr ⟨rfl, key, chain, keyText, chainText, snapshot, ticking, decodes, rfl⟩

section Writing
variable {path other : String} {file : StoredFile}

@[simp] theorem write_stored_self : (s.write path file).stored path = some file :=
  Function.update_self ..

@[simp] theorem write_times_self : (s.write path file).times path = file.modified :: s.times path :=
  Function.update_self ..

theorem write_stored_of_ne (ne : other ≠ path) :
    (s.write path file).stored other = s.stored other :=
  Function.update_of_ne ne ..

theorem write_times_of_ne (ne : other ≠ path) : (s.write path file).times other = s.times other :=
  Function.update_of_ne ne ..

/-- Two files may be replaced one after the other. -/
theorem exists_writes {first second : String} {k c : StoredFile} (distinct : first ≠ second)
    (newKey : k.modified ∉ s.times first) (newChain : c.modified ∉ s.times second) :
    ∃ t, Run Step s [.wrote first k, .wrote second c] t ∧
      t.refresher = s.refresher ∧ t.underWay = s.underWay ∧
      t.stored first = some k ∧ t.stored second = some c ∧
      t.times first = k.modified :: s.times first ∧
      t.times second = c.modified :: s.times second := by
  have secondNew : c.modified ∉ (s.write first k).times second := by
    rwa [write_times_of_ne distinct.symm]
  refine ⟨_, .cons (.wrote s first k newKey) (.cons (.wrote _ second c secondNew) (.nil _)), rfl,
    rfl, ?_, write_stored_self, ?_, ?_⟩
  · rw [write_stored_of_ne distinct, write_stored_self]
  · rw [write_times_of_ne distinct, write_times_self]
  · rw [write_times_self, write_times_of_ne distinct.symm]

end Writing

theorem files_of_step (step : Step s e t) : t.files = s.files := by
  cases e with
  | ended outcome =>
    rcases ended_cases step with ⟨-, rfl⟩ | ⟨-, key, chain, keyText, chainText, snapshot, -, -, rfl⟩
    · rfl
    · rfl
  | wrote path file => cases step; rfl
  | started => cases step; rfl
  | answered a => cases step; rfl

theorem files_of_run (run : Run Step s history t) : t.files = s.files := by
  induction run with
  | nil s => rfl
  | cons first rest ih => exact ih.trans (files_of_step first)

section Times

/-- The time of each file that is there is among those it had. -/
def Dated (s : BusySite) : Prop :=
  ∀ path f, s.stored path = some f → f.modified ∈ s.times path

/-- The times that were applied last are among the given ones. -/
structure AppliedAmong (times : String → List Moment) (s : BusySite) : Prop where
  key : ∀ m, s.refresher.watch.lastKey = some m → m ∈ times s.files.key
  chain : ∀ m, s.refresher.watch.lastCertificates = some m → m ∈ times s.files.certificates

/-- The times that the tick under way was shown are among the given ones. -/
def ShownAmong (times : String → List Moment) (s : BusySite) : Prop :=
  ∀ answers, s.underWay = some answers →
    ∀ path m, FileAnswer.modified path (.ok m) ∈ answers → m ∈ times path

variable {times times' : String → List Moment}

theorem AppliedAmong.mono (applied : AppliedAmong times s)
    (more : ∀ path, ∀ m ∈ times path, m ∈ times' path) : AppliedAmong times' s :=
  ⟨fun m last => more _ m (applied.key m last), fun m last => more _ m (applied.chain m last)⟩

theorem ShownAmong.mono (shown : ShownAmong times s)
    (more : ∀ path, ∀ m ∈ times path, m ∈ times' path) : ShownAmong times' s :=
  fun answers ticking path m mem => more path m (shown answers ticking path m mem)

/-- Only a reload changes which times were applied last, and it applies those it was shown. -/
theorem AppliedAmong.step (applied : AppliedAmong times s) (step : Step s e t)
    (shown : e.isReload = true → ShownAmong times s) : AppliedAmong times t := by
  cases e with
  | wrote path file => cases step; exact ⟨applied.key, applied.chain⟩
  | started => cases step; exact ⟨applied.key, applied.chain⟩
  | answered a => cases step; exact ⟨applied.key, applied.chain⟩
  | ended outcome =>
    rcases ended_cases step with
      ⟨-, rfl⟩ | ⟨reload, key, chain, keyText, chainText, snapshot, ticking, -, rfl⟩
    · exact ⟨applied.key, applied.chain⟩
    · have among := shown reload _ ticking
      constructor
      · intro m last
        obtain rfl := Option.some.inj last
        exact among s.files.key key List.mem_cons_self
      · intro m last
        obtain rfl := Option.some.inj last
        exact among s.files.certificates chain (List.mem_cons_of_mem _ List.mem_cons_self)

/-- Only a look shows a time to the tick under way. -/
theorem ShownAmong.step (shown : ShownAmong times s) (step : Step s e t)
    (looked : e.isLook = true → ∀ path f, s.stored path = some f → f.modified ∈ times path) :
    ShownAmong times t := by
  cases step with
  | wrote path file fresh => exact shown
  | started idle =>
    intro answers ticking path m mem
    obtain rfl := Option.some.inj ticking
    cases mem
  | @answered answers a ticking asks fits =>
    intro answers' ticking' path m mem
    obtain rfl := Option.some.inj ticking'
    rcases List.mem_append.1 mem with mem | mem
    · exact shown answers ticking path m mem
    · obtain rfl := List.mem_singleton.1 mem
      obtain ⟨f, stands, rfl⟩ := fits
      exact looked rfl path f stands
  | ended ticking comes =>
    intro answers none
    cases none

/-- What holds of the times at every moment: those that stand there, that were applied last and
that the tick under way was shown are all among those that the files had. -/
structure Sound (s : BusySite) : Prop where
  dated : s.Dated
  applied : AppliedAmong s.times s
  shown : ShownAmong s.times s

theorem sound_start (files : IdentityFiles) (stored : String → Option StoredFile) :
    (start files stored).Sound where
  dated path f stands := by
    change f.modified ∈ ((stored path).map StoredFile.modified).toList
    rw [show stored path = some f from stands]
    exact List.mem_singleton_self _
  applied := ⟨nofun, nofun⟩
  shown := nofun

/-- The times that a file had stay known. -/
theorem times_of_step (step : Step s e t) (path : String) :
    ∀ m ∈ s.times path, m ∈ t.times path := by
  intro m mem
  cases step with
  | wrote path' file fresh =>
    by_cases same : path = path'
    · subst same
      rw [write_times_self]
      exact List.mem_cons_of_mem _ mem
    · rw [write_times_of_ne same]
      exact mem
  | started idle => exact mem
  | answered ticking asks fits => exact mem
  | ended ticking comes => exact mem

theorem times_of_run (run : Run Step s history t) (path : String) :
    ∀ m ∈ s.times path, m ∈ t.times path := by
  induction run with
  | nil s => exact fun m mem => mem
  | cons first rest ih => exact fun m mem => ih m (times_of_step first path m mem)

theorem Dated.step (dated : s.Dated) (step : Step s e t) : t.Dated := by
  intro path f stands
  cases step with
  | wrote path' file fresh =>
    by_cases same : path = path'
    · subst same
      rw [write_stored_self] at stands
      rw [write_times_self, ← Option.some.inj stands]
      exact List.mem_cons_self
    · rw [write_stored_of_ne same] at stands
      rw [write_times_of_ne same]
      exact dated path f stands
  | started idle => exact dated path f stands
  | answered ticking asks fits => exact dated path f stands
  | ended ticking comes => exact dated path f stands

theorem Sound.step (sound : s.Sound) (step : Step s e t) : t.Sound where
  dated := sound.dated.step step
  applied := (sound.applied.step step fun _ => sound.shown).mono (times_of_step step)
  shown := (sound.shown.step step fun _ => sound.dated).mono (times_of_step step)

theorem Sound.run (sound : s.Sound) (run : Run Step s history t) : t.Sound := by
  induction run with
  | nil s => exact sound
  | cons first rest ih => exact ih (sound.step first)

end Times

section WholeTicks

/-- What may happen during a tick that nothing disturbs: calls that succeed, and writes to files
that nobody watches. -/
def Event.Undisturbing (files : IdentityFiles) : Event → Prop
  | .wrote path _ => path ≠ files.key ∧ path ≠ files.certificates
  | .answered a => a.succeeded = true
  | .started | .ended _ => False

/-- The events of a tick from its start to its end. -/
def wholeTick (calls : List Event) (outcome : Except CredentialFailure TickKind) : List Event :=
  .started :: (calls ++ [.ended outcome])

variable {calls : List Event} {outcome : Except CredentialFailure TickKind} {a : FileAnswer}

/-- An answer depends on nothing but the file it is about. -/
theorem MayAnswer.congr {u : BusySite} (fits : t.MayAnswer a)
    (same : t.stored a.path = u.stored a.path) : u.MayAnswer a := by
  match a, fits with
  | .modified path (.ok moment), fits =>
    change t.stored path = u.stored path at same
    change ∃ f, u.stored path = some f ∧ f.modified = moment
    rw [← same]
    exact fits
  | .read path (.ok text), fits =>
    change t.stored path = u.stored path at same
    change ∃ f, u.stored path = some f ∧ f.data = text
    rw [← same]
    exact fits
  | .modified _ (.error _), _ => trivial
  | .read _ (.error _), _ => trivial

theorem MayAnswer.toSite (fits : s.MayAnswer a) (succeeded : a.succeeded = true) :
    s.toSite.MayAnswer a := by
  match a, fits with
  | .modified _ (.ok _), fits => exact fits
  | .read _ (.ok _), fits => exact fits
  | .modified _ (.error _), _ => cases succeeded
  | .read _ (.error _), _ => cases succeeded

/-- While nothing disturbs a tick, it is answered by the watched files as they stood. -/
theorem calls_undisturbed {files : IdentityFiles} {answers : List FileAnswer}
    (ticking : s.underWay = some answers) (run : Run Step s calls t)
    (quiet : ∀ e ∈ calls, e.Undisturbing files) :
    t.refresher = s.refresher ∧
      (∀ path, path = files.key ∨ path = files.certificates → t.stored path = s.stored path) ∧
      ∃ more, t.underWay = some (answers ++ more) ∧ ∀ a ∈ more, a.succeeded = true ∧
        (a.path = files.key ∨ a.path = files.certificates → s.MayAnswer a) := by
  induction run generalizing answers with
  | nil u => exact ⟨rfl, fun _ _ => rfl, [], by rw [List.append_nil, ticking], nofun⟩
  | @cons s u t e calls first rest ih =>
    obtain ⟨quietFirst, quietRest⟩ := List.forall_mem_cons.1 quiet
    cases first with
    | wrote path file fresh =>
      obtain ⟨same, stands, more, underWay, fits⟩ := ih ticking quietRest
      have unwatched : ∀ p, p = files.key ∨ p = files.certificates →
          (s.write path file).stored p = s.stored p := by
        intro p watched
        apply write_stored_of_ne
        rcases watched with rfl | rfl
        · exact quietFirst.1.symm
        · exact quietFirst.2.symm
      refine ⟨same, fun p watched => (stands p watched).trans (unwatched p watched), more,
        underWay, ?_⟩
      intro a mem
      obtain ⟨succeeded, fits⟩ := fits a mem
      exact ⟨succeeded, fun watched => (fits watched).congr (unwatched _ watched)⟩
    | started idle => exact quietFirst.elim
    | @answered answers' a ticking' asks fits =>
      obtain rfl := Option.some.inj (ticking.symm.trans ticking')
      obtain ⟨same, stands, more, underWay, others⟩ := ih rfl quietRest
      refine ⟨same, stands, a :: more, by rw [underWay, List.append_assoc]; rfl, ?_⟩
      refine List.forall_mem_cons.2 ⟨⟨quietFirst, fun _ => fits⟩, ?_⟩
      intro b mem
      obtain ⟨succeeded, fits⟩ := others b mem
      exact ⟨succeeded, fun watched => (fits watched).congr rfl⟩
    | ended ticking comes => exact quietFirst.elim

/-- A tick that nothing disturbs comes to what a tick comes to while all files stand still. -/
theorem ticked_of_wholeTick (run : Run Step s (wholeTick calls outcome) t)
    (quiet : ∀ e ∈ calls, e.Undisturbing s.files) :
    t.underWay = none ∧ (∀ path, path = s.files.key ∨ path = s.files.certificates →
        t.stored path = s.stored path) ∧
      ∃ u, Site.Ticked s.toSite outcome u ∧ t.refresher = u.refresher := by
  obtain ⟨u, begins, rest⟩ := Run.cons_iff.1 run
  obtain ⟨v, during, ends⟩ := Run.concat_iff.1 rest
  cases begins with
  | started idle =>
    obtain ⟨same, stands, more, underWay, fits⟩ := calls_undisturbed rfl during quiet
    generalize eventEq : Event.ended outcome = event at ends
    cases ends with
    | wrote path file fresh => cases eventEq
    | started idle => cases eventEq
    | answered ticking asks fits => cases eventEq
    | @ended answers x ticking comes =>
      obtain rfl := Event.ended.inj eventEq
      obtain rfl := Option.some.inj (ticking.symm.trans underWay)
      have watch : v.refresher.watch = s.refresher.watch := congrArg Refresher.watch same
      rw [watch] at comes
      have watched := (Tick.course_of_yields comes).path
      have step : Site.Step s.toSite _ _ := .ticked s.toSite (x := x) (fun a mem => ?_) comes
      · refine ⟨rfl, stands, _, Site.ticked_of_step step, ?_⟩
        dsimp only
        rw [same]
      · obtain ⟨succeeded, fits⟩ := fits a mem
        exact MayAnswer.toSite (s := s) ((fits (watched a mem)).congr rfl) succeeded

/-- Calls may be answered by what stands there, one after another. -/
theorem exists_calls {xs ys : List FileAnswer} (more : List FileAnswer) {x : Attempt Tick}
    (ticking : s.underWay = some xs)
    (comes : (Tick.program s.refresher.watch).Yields (xs ++ ys ++ more) x)
    (fits : ∀ a ∈ ys, s.MayAnswer a) :
    Run Step s (ys.map .answered) { s with underWay := some (xs ++ ys) } := by
  induction ys generalizing s xs with
  | nil =>
    rw [List.append_nil, ← ticking]
    exact .nil s
  | cons a ys ih =>
    obtain ⟨first, others⟩ := List.forall_mem_cons.1 fits
    rw [List.append_cons] at comes ⊢
    have step := Step.answered s ticking ⟨ys ++ more, x, by simpa using comes⟩ first
    exact .cons step (ih rfl comes fun b mem => (others b mem).congr rfl)

/-- Once both files are there, a tick can run from its start to its end. -/
theorem exists_wholeTick {k c : StoredFile} (idle : s.underWay = none)
    (key : s.stored s.files.key = some k) (chain : s.stored s.files.certificates = some c) :
    ∃ calls outcome t, (∀ e ∈ calls, e.Undisturbing s.files) ∧
      Run Step s (wholeTick calls outcome) t := by
  have stands : ∀ path, ∃ f, path = s.files.key ∨ path = s.files.certificates →
      s.stored path = some f := by
    intro path
    by_cases first : path = s.files.key
    · exact ⟨k, fun _ => first ▸ key⟩
    · exact ⟨c, fun watched => watched.resolve_left first ▸ chain⟩
  let Allowed (a : FileAnswer) : Prop := a.succeeded = true ∧
    (a.path = s.files.key ∨ a.path = s.files.certificates → s.MayAnswer a)
  have modified : ∀ path, ∃ answer, Allowed (.modified path answer) := fun path =>
    (stands path).imp' (fun f => .ok f.modified) fun f there =>
      ⟨rfl, fun watched => ⟨f, there watched, rfl⟩⟩
  have read : ∀ path, ∃ answer, Allowed (.read path answer) := fun path =>
    (stands path).imp' (fun f => .ok f.data) fun f there =>
      ⟨rfl, fun watched => ⟨f, there watched, rfl⟩⟩
  obtain ⟨answers, x, comes, fits⟩ :=
    FileProgram.exists_yields modified read (Tick.program s.refresher.watch)
  have watched := (Tick.course_of_yields comes).path
  have calls : Run Step { s with underWay := some [] } (answers.map .answered) _ :=
    exists_calls [] rfl (by simpa using comes) fun a mem =>
      ((fits a mem).2 (watched a mem)).congr rfl
  refine ⟨answers.map .answered, _, _, ?_,
    .cons (.started s idle) (Run.concat_iff.2 ⟨_, calls, .ended _ rfl comes⟩)⟩
  intro e mem
  obtain ⟨a, answered, rfl⟩ := List.mem_map.1 mem
  exact (fits a answered).1

end WholeTicks

end BusySite
end CredentialRotation
