import CredentialRotation.Proofs.Credential.Loading

/-!
Everything a tick can do, read off the answers that its calls are given. What holds of all ticks is
proved by cases over these courses, and the tick itself is not opened again.
-/
namespace CredentialRotation

namespace WatchState

theorem bothChanged_eq_true_iff {w : WatchState} {key chain : Moment} :
    w.bothChanged key chain = true ↔ w.lastKey ≠ some key ∧ w.lastCertificates ≠ some chain := by
  simp [bothChanged]

theorem bothChanged_eq_false_iff {w : WatchState} {key chain : Moment} :
    w.bothChanged key chain = false ↔ w.lastKey = some key ∨ w.lastCertificates = some chain := by
  rw [← Bool.not_eq_true, bothChanged_eq_true_iff]
  grind

end WatchState

namespace Tick

/-- The courses of a tick, with what each comes to. Behind an open gate the pair is loaded once. -/
inductive Course (w : WatchState) : List FileAnswer → Except CredentialFailure Tick → Prop
  | keyUnseen (cause : FileFailure) :
    Course w [.modified w.files.key (.error cause)] (.error (.io w.files.key cause))
  | chainUnseen (key : Moment) (cause : FileFailure) :
    Course w [.modified w.files.key (.ok key), .modified w.files.certificates (.error cause)]
      (.error (.io w.files.certificates cause))
  | closed (key chain : Moment) (gate : w.bothChanged key chain = false) :
    Course w [.modified w.files.key (.ok key), .modified w.files.certificates (.ok chain)]
      (.ok .unchanged)
  | opened (key chain : Moment) (gate : w.bothChanged key chain = true)
      {answers : List FileAnswer} {outcome : Except CredentialFailure Snapshot}
      (loading : Snapshot.LoadCourse w.files answers outcome) :
    Course w (.modified w.files.key (.ok key) :: .modified w.files.certificates (.ok chain) ::
      answers) (outcome.map (Tick.reloaded key chain))

variable {w : WatchState} {answers : List FileAnswer}

theorem load_outcome (files : IdentityFiles) (key chain : Moment) (keyText chainText : Octets) :
    (load files key chain keyText chainText).outcome =
      (Snapshot.decode keyText chainText).outcome.map (Tick.reloaded key chain) := by
  simp only [load, Attempt.outcome_bind, Attempt.outcome_report, Attempt.outcome_pure]
  cases (Snapshot.decode keyText chainText).outcome <;> rfl

/-- On files that stand still and behind an open gate, a tick loads what stands there. -/
theorem run_program {fs : FileSystem} {key chain : Moment} {keyText chainText : Octets}
    (seenKey : fs.modified w.files.key = .ok key)
    (seenChain : fs.modified w.files.certificates = .ok chain)
    (gate : w.bothChanged key chain = true) (readKey : fs.read w.files.key = .ok keyText)
    (readChain : fs.read w.files.certificates = .ok chainText) :
    (program w).run fs = load w.files key chain keyText chainText := by
  simp only [program, FileProgram.run, seenKey, seenChain, gate, Bool.not_true, Bool.false_eq_true,
    if_false, readKey, readChain]

/-- Behind an open gate, a tick whose calls all succeed loads the two texts it reads. -/
theorem yields_load {key chain : Moment} (gate : w.bothChanged key chain = true)
    (keyText chainText : Octets) :
    (program w).Yields [.modified w.files.key (.ok key), .modified w.files.certificates (.ok chain),
      .read w.files.key (.ok keyText), .read w.files.certificates (.ok chainText)]
      (load w.files key chain keyText chainText) := by
  refine .modified _ (.modified _ ?_)
  simp only [gate, Bool.not_true, Bool.false_eq_true, if_false]
  exact .read _ (.read _ (.done _))

/-- Every tick takes one of the courses. -/
theorem course_of_yields {x : Attempt Tick} (h : (program w).Yields answers x) :
    Course w answers x.outcome := by
  unfold program at h
  obtain ⟨seenKey, _, rfl, afterKey⟩ := FileProgram.yields_modified_iff.1 h
  cases seenKey with
  | error cause =>
    obtain ⟨rfl, rfl⟩ := FileProgram.yields_done_iff.1 afterKey
    exact .keyUnseen cause
  | ok key =>
    obtain ⟨seenChain, _, rfl, afterChain⟩ := FileProgram.yields_modified_iff.1 afterKey
    cases seenChain with
    | error cause =>
      obtain ⟨rfl, rfl⟩ := FileProgram.yields_done_iff.1 afterChain
      exact .chainUnseen key cause
    | ok chain =>
      cases gate : w.bothChanged key chain with
      | false =>
        simp only [gate, Bool.not_false, if_true] at afterChain
        obtain ⟨rfl, rfl⟩ := FileProgram.yields_done_iff.1 afterChain
        exact .closed key chain gate
      | true =>
        simp only [gate, Bool.not_true, Bool.false_eq_true, if_false] at afterChain
        obtain ⟨readKey, _, rfl, withKey⟩ := FileProgram.yields_read_iff.1 afterChain
        cases readKey with
        | error cause =>
          obtain ⟨rfl, rfl⟩ := FileProgram.yields_done_iff.1 withKey
          exact .opened key chain gate (.keyUnread cause)
        | ok keyText =>
          obtain ⟨readChain, _, rfl, withBoth⟩ := FileProgram.yields_read_iff.1 withKey
          cases readChain with
          | error cause =>
            obtain ⟨rfl, rfl⟩ := FileProgram.yields_done_iff.1 withBoth
            exact .opened key chain gate (.chainUnread keyText cause)
          | ok chainText =>
            obtain ⟨rfl, rfl⟩ := FileProgram.yields_done_iff.1 withBoth
            rw [load_outcome]
            exact .opened key chain gate (.bothRead keyText chainText)

/-- A tick that reads two texts comes to what they hold. -/
theorem outcome_of_reads {key chain : Moment} {keyText chainText : Octets} {x : Attempt Tick}
    (h : (program w).Yields [.modified w.files.key (.ok key),
      .modified w.files.certificates (.ok chain), .read w.files.key (.ok keyText),
      .read w.files.certificates (.ok chainText)] x) :
    x.outcome = (Snapshot.decode keyText chainText).outcome.map (Tick.reloaded key chain) := by
  have course := course_of_yields h
  generalize x.outcome = outcome at course ⊢
  cases course with
  | opened _ _ gate loading => cases loading; rfl

/-- A tick calls for the two watched files only. -/
theorem Course.path {outcome : Except CredentialFailure Tick} (course : Course w answers outcome) :
    ∀ a ∈ answers, a.path = w.files.key ∨ a.path = w.files.certificates := by
  cases course with
  | keyUnseen cause => simp [FileAnswer.path]
  | chainUnseen key cause => simp [FileAnswer.path]
  | closed key chain gate => simp [FileAnswer.path]
  | opened key chain gate loading => cases loading <;> simp [FileAnswer.path]

/-- A tick that finds nothing to do reads nothing, and has found one of the times last applied. -/
theorem Course.unchanged (course : Course w answers (.ok .unchanged)) :
    (∀ a ∈ answers, a.isRead = false) ∧ (w.lastKey ≠ none ∨ w.lastCertificates ≠ none) := by
  generalize outcomeEq : (Except.ok .unchanged : Except CredentialFailure Tick) = outcome at course
  cases course with
  | keyUnseen cause => cases outcomeEq
  | chainUnseen key cause => cases outcomeEq
  | closed key chain gate =>
    refine ⟨by simp [FileAnswer.isRead], ?_⟩
    rcases WatchState.bothChanged_eq_false_iff.1 gate with same | same
    · exact .inl (by simp [same])
    · exact .inr (by simp [same])
  | @opened key chain gate answers outcome loading =>
    cases outcome <;> simp [Except.map] at outcomeEq

/-- A reload publishes what was decoded from the texts of this very tick, and takes over the two
times it was shown. -/
theorem Course.reloaded {key chain : Moment} {s : Snapshot}
    (course : Course w answers (.ok (.reloaded key chain s))) :
    ∃ keyText chainText, answers = [.modified w.files.key (.ok key),
        .modified w.files.certificates (.ok chain), .read w.files.key (.ok keyText),
        .read w.files.certificates (.ok chainText)] ∧
      (Snapshot.decode keyText chainText).outcome = .ok s := by
  generalize outcomeEq :
    (Except.ok (.reloaded key chain s) : Except CredentialFailure Tick) = outcome at course
  cases course with
  | keyUnseen cause => cases outcomeEq
  | chainUnseen key cause => cases outcomeEq
  | closed key chain gate => cases outcomeEq
  | @opened key chain gate answers outcome loading =>
    cases outcome with
    | error failure => cases outcomeEq
    | ok s =>
      obtain ⟨rfl, rfl, rfl⟩ : _ ∧ _ ∧ _ := by simpa [Except.map] using outcomeEq
      obtain ⟨keyText, chainText, rfl, decodes⟩ := loading.eq_ok
      exact ⟨keyText, chainText, rfl, decodes⟩

/-- The snapshot that a tick publishes. -/
def snapshot? : Tick → Option Snapshot
  | .unchanged => none
  | .reloaded _ _ s => some s

/-- A tick publishes what the texts it read hold, and nothing else. -/
theorem Course.ofAnswers? {outcome : Except CredentialFailure Tick}
    (course : Course w answers outcome) :
    Snapshot.ofAnswers? answers = outcome.toOption.bind snapshot? := by
  cases course with
  | keyUnseen cause => rfl
  | chainUnseen key cause => rfl
  | closed key chain gate => rfl
  | @opened key chain gate answers outcome loading =>
    -- The two times that were seen are no texts.
    change Snapshot.ofAnswers? answers = _
    rw [loading.ofAnswers?]
    cases outcome <;> rfl

end Tick
end CredentialRotation
