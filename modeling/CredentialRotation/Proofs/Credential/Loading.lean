import CredentialRotation.Credential.Refresh
import CredentialRotation.Proofs.Files.Answers
import CredentialRotation.Proofs.Steps

/-!
What it takes to load a snapshot: a key text with a key that can sign, and a chain text with at
least one certificate. Nothing else of the two texts matters to the outcome.
-/
namespace CredentialRotation

namespace Attempt
variable {α β : Type}

@[simp] theorem outcome_pure (a : α) : (pure a : Attempt α).outcome = .ok a := rfl

@[simp] theorem outcome_report (e : Event) : (Attempt.report e).outcome = .ok () := rfl

@[simp] theorem events_pure (a : α) : (pure a : Attempt α).events = [] := rfl

@[simp] theorem events_throw (failure : CredentialFailure) :
    (throw failure : Attempt α).events = [] := rfl

@[simp] theorem events_report (e : Event) : (Attempt.report e).events = [e] := rfl

@[simp] theorem events_lift (x : Logged α) : Attempt.events (ExceptT.lift x) = x.events :=
  List.append_nil x.events

@[simp] theorem outcome_bind (x : Attempt α) (f : α → Attempt β) :
    (x >>= f).outcome = x.outcome.bind fun a => (f a).outcome := by
  obtain ⟨outcome, events⟩ := x
  cases outcome <;> rfl

theorem outcome_tryCatch (x : Attempt α) (handle : CredentialFailure → Attempt α) :
    (tryCatch x handle).outcome =
      match x.outcome with
      | .ok a => .ok a
      | .error failure => (handle failure).outcome := by
  obtain ⟨outcome, events⟩ := x
  cases outcome <;> rfl

/-- What comes after a failure reports nothing. -/
@[simp] theorem mem_events_bind {x : Attempt α} {f : α → Attempt β} {e : Event} :
    e ∈ (x >>= f).events ↔ e ∈ x.events ∨ ∃ a, x.outcome = .ok a ∧ e ∈ (f a).events := by
  obtain ⟨outcome, events⟩ := x
  cases outcome with
  | ok a =>
    refine List.mem_append.trans (or_congr_right ⟨fun mem => ⟨a, rfl, mem⟩, ?_⟩)
    rintro ⟨_, same, mem⟩
    obtain rfl := Except.ok.inj same
    exact mem
  | error failure =>
    refine List.mem_append.trans (or_congr_right ⟨nofun, nofun⟩)

end Attempt

namespace Snapshot
variable {key : PrivateKey} {chain : Chain} {keyText chainText : Octets} {s : Snapshot}

/-- The snapshot of a key that can sign, with a chain that is not empty. -/
def ofPair (key : PrivateKey) (chain : Chain) (nonempty : chain.certificates ≠ []) : Snapshot :=
  { key, chain, certified := ⟨chain.ders, key.components⟩, nonempty }

/-- Pairing succeeds exactly for a key that can sign and a chain that is not empty. -/
theorem make_eq_ok_iff :
    make key chain = .ok s ↔
      key.canSign = true ∧ ∃ nonempty : chain.certificates ≠ [], s = ofPair key chain nonempty := by
  unfold make PrivateKey.signer
  by_cases nonempty : chain.certificates ≠ []
  · rw [dif_pos nonempty]
    cases signs : key.canSign with
    | false => simp [bind, Except.bind]
    | true =>
      simp only [if_true, true_and]
      constructor
      · intro h
        exact ⟨nonempty, (Except.ok.inj h).symm⟩
      · rintro ⟨_, rfl⟩
        rfl
  · rw [dif_neg nonempty]
    simp [nonempty]

theorem decode_outcome (keyText chainText : Octets) :
    (decode keyText chainText).outcome = (PrivateKey.decode keyText).outcome.bind fun key =>
      (Chain.decode chainText).outcome.bind fun chain => make key chain := by
  simp only [decode, Attempt.outcome_bind]
  congr 1
  funext key
  congr 1
  funext chain
  cases make key chain <;> rfl

/-- Two texts load exactly if each can be read and what they hold can be paired. -/
theorem decode_eq_ok_iff :
    (decode keyText chainText).outcome = .ok s ↔
      ∃ key chain, (PrivateKey.decode keyText).outcome = .ok key ∧
        (Chain.decode chainText).outcome = .ok chain ∧ make key chain = .ok s := by
  rw [decode_outcome]
  cases (PrivateKey.decode keyText).outcome with
  | error failure => simp [Except.bind]
  | ok key =>
    cases (Chain.decode chainText).outcome with
    | error failure => simp [Except.bind]
    | ok chain => simp [Except.bind]

/-- A loaded snapshot holds what the two texts hold. -/
theorem parts_of_decode (h : (decode keyText chainText).outcome = .ok s) :
    (PrivateKey.decode keyText).outcome = .ok s.key ∧
      (Chain.decode chainText).outcome = .ok s.chain := by
  obtain ⟨key, chain, hkey, hchain, made⟩ := decode_eq_ok_iff.1 h
  obtain ⟨-, nonempty, rfl⟩ := make_eq_ok_iff.1 made
  exact ⟨hkey, hchain⟩

/-- The three courses of loading a pair once. The chain is not read where the key is not. -/
inductive LoadCourse (files : IdentityFiles) :
    List FileAnswer → Except CredentialFailure Snapshot → Prop
  | keyUnread (cause : FileFailure) :
    LoadCourse files [.read files.key (.error cause)] (.error (.io files.key cause))
  | chainUnread (keyText : Octets) (cause : FileFailure) :
    LoadCourse files [.read files.key (.ok keyText), .read files.certificates (.error cause)]
      (.error (.io files.certificates cause))
  | bothRead (keyText chainText : Octets) :
    LoadCourse files [.read files.key (.ok keyText), .read files.certificates (.ok chainText)]
      (decode keyText chainText).outcome

/-- Loading a pair once takes one of the courses. -/
theorem loadCourse_of_yields {files : IdentityFiles} {answers : List FileAnswer}
    {x : Attempt Snapshot} (h : (loadProgram files).Yields answers x) :
    LoadCourse files answers x.outcome := by
  unfold loadProgram at h
  obtain ⟨readKey, _, rfl, withKey⟩ := FileProgram.yields_read_iff.1 h
  cases readKey with
  | error cause =>
    obtain ⟨rfl, rfl⟩ := FileProgram.yields_done_iff.1 withKey
    exact .keyUnread cause
  | ok keyText =>
    obtain ⟨readChain, _, rfl, withBoth⟩ := FileProgram.yields_read_iff.1 withKey
    cases readChain with
    | error cause =>
      obtain ⟨rfl, rfl⟩ := FileProgram.yields_done_iff.1 withBoth
      exact .chainUnread keyText cause
    | ok chainText =>
      obtain ⟨rfl, rfl⟩ := FileProgram.yields_done_iff.1 withBoth
      exact .bothRead keyText chainText

/-- Whatever was loaded was decoded from two texts, the two that were read. -/
theorem LoadCourse.eq_ok {files : IdentityFiles} {answers : List FileAnswer}
    (course : LoadCourse files answers (.ok s)) :
    ∃ keyText chainText, answers = [.read files.key (.ok keyText),
        .read files.certificates (.ok chainText)] ∧
      (decode keyText chainText).outcome = .ok s := by
  generalize outcomeEq : (Except.ok s : Except CredentialFailure Snapshot) = outcome at course
  cases course with
  | keyUnread cause => cases outcomeEq
  | chainUnread keyText cause => cases outcomeEq
  | bothRead keyText chainText => exact ⟨keyText, chainText, rfl, rfl⟩

/-- The snapshot that the texts among some answers hold, if these are the texts of a pair. -/
def ofAnswers? (answers : List FileAnswer) : Option Snapshot :=
  match answers.filterMap FileAnswer.text? with
  | [keyText, chainText] => (decode keyText chainText).outcome.toOption
  | _ => none

theorem LoadCourse.ofAnswers? {files : IdentityFiles} {answers : List FileAnswer}
    {outcome : Except CredentialFailure Snapshot} (course : LoadCourse files answers outcome) :
    ofAnswers? answers = outcome.toOption := by
  cases course <;> rfl

end Snapshot
end CredentialRotation
