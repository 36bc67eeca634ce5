import CredentialRotation.Files.Program

/-!
Work over files whose every call may be answered differently. A list of answered calls says all that
such files did; with it, what the work came to is settled.
-/
namespace CredentialRotation

/-- A call with the answer it was given. -/
inductive FileAnswer
  | modified (path : String) (answer : Except FileFailure Moment)
  | read (path : String) (answer : Except FileFailure Octets)

/-- What a read answer brought, if it brought anything. -/
def FileAnswer.text? : FileAnswer → Option Octets
  | .read _ (.ok text) => some text
  | _ => none

def FileAnswer.isRead : FileAnswer → Bool
  | .read .. => true
  | .modified .. => false

/-- The file that was asked for. -/
def FileAnswer.path : FileAnswer → String
  | .modified path _ | .read path _ => path

/-- The call did not fail. -/
def FileAnswer.succeeded : FileAnswer → Bool
  | .modified _ answer => answer.isOk
  | .read _ answer => answer.isOk

namespace FileProgram
variable {α β : Type}

/-- `p.Yields answers a`: given these answers to its calls, one after another, the work comes to
`a`. -/
inductive Yields : FileProgram α → List FileAnswer → α → Prop
  | done (a : α) : Yields (.done a) [] a
  | modified {path : String} {next : Except FileFailure Moment → FileProgram α}
      (answer : Except FileFailure Moment) {answers : List FileAnswer} {a : α}
      (rest : Yields (next answer) answers a) :
    Yields (.modified path next) (.modified path answer :: answers) a
  | read {path : String} {next : Except FileFailure Octets → FileProgram α}
      (answer : Except FileFailure Octets) {answers : List FileAnswer} {a : α}
      (rest : Yields (next answer) answers a) :
    Yields (.read path next) (.read path answer :: answers) a

variable {answers : List FileAnswer} {path : String} {a b : α}

@[simp] theorem yields_done_iff : Yields (.done a) answers b ↔ answers = [] ∧ b = a := by
  constructor
  · intro h
    cases h
    exact ⟨rfl, rfl⟩
  · rintro ⟨rfl, rfl⟩
    exact .done b

theorem yields_modified_iff {next : Except FileFailure Moment → FileProgram α} :
    Yields (.modified path next) answers a ↔
      ∃ answer rest, answers = .modified path answer :: rest ∧ Yields (next answer) rest a := by
  constructor
  · intro h
    cases h with
    | modified answer rest => exact ⟨answer, _, rfl, rest⟩
  · rintro ⟨answer, rest, rfl, h⟩
    exact .modified answer h

theorem yields_read_iff {next : Except FileFailure Octets → FileProgram α} :
    Yields (.read path next) answers a ↔
      ∃ answer rest, answers = .read path answer :: rest ∧ Yields (next answer) rest a := by
  constructor
  · intro h
    cases h with
    | read answer rest => exact ⟨answer, _, rfl, rest⟩
  · rintro ⟨answer, rest, rfl, h⟩
    exact .read answer h

/-- Work that goes on with the result of other work takes the answers of both in turn. -/
theorem yields_bind_iff {p : FileProgram α} {f : α → FileProgram β} {b : β} :
    Yields (p.bind f) answers b ↔
      ∃ first rest a, answers = first ++ rest ∧ Yields p first a ∧ Yields (f a) rest b := by
  induction p generalizing answers with
  | done a =>
    simp only [bind, yields_done_iff]
    constructor
    · intro h
      exact ⟨[], answers, a, rfl, ⟨rfl, rfl⟩, h⟩
    · rintro ⟨_, rest, _, rfl, ⟨rfl, rfl⟩, h⟩
      exact h
  | modified path next ih =>
    simp only [bind, yields_modified_iff, ih]
    constructor
    · rintro ⟨answer, _, rfl, first, rest, a, rfl, h, h'⟩
      exact ⟨_ :: first, rest, a, rfl, ⟨answer, first, rfl, h⟩, h'⟩
    · rintro ⟨_, rest, a, rfl, ⟨answer, first, rfl, h⟩, h'⟩
      exact ⟨answer, _, rfl, first, rest, a, rfl, h, h'⟩
  | read path next ih =>
    simp only [bind, yields_read_iff, ih]
    constructor
    · rintro ⟨answer, _, rfl, first, rest, a, rfl, h, h'⟩
      exact ⟨_ :: first, rest, a, rfl, ⟨answer, first, rfl, h⟩, h'⟩
    · rintro ⟨_, rest, a, rfl, ⟨answer, first, rfl, h⟩, h'⟩
      exact ⟨answer, _, rfl, first, rest, a, rfl, h, h'⟩

/-- Work whose result is only turned into another takes the same answers. -/
theorem yields_bind_done_iff {p : FileProgram α} {f : α → β} {b : β} :
    Yields (p.bind fun a => .done (f a)) answers b ↔ ∃ a, p.Yields answers a ∧ b = f a := by
  rw [yields_bind_iff]
  constructor
  · rintro ⟨first, _, a, rfl, yields, done⟩
    obtain ⟨rfl, rfl⟩ := yields_done_iff.1 done
    exact ⟨a, by rwa [List.append_nil], rfl⟩
  · rintro ⟨a, yields, rfl⟩
    exact ⟨answers, [], a, (List.append_nil _).symm, yields, .done _⟩

/-- Work comes to an end, whatever it is answered out of the answers that are allowed. -/
theorem exists_yields {allowed : FileAnswer → Prop}
    (modified : ∀ path, ∃ answer, allowed (.modified path answer))
    (read : ∀ path, ∃ answer, allowed (.read path answer)) (p : FileProgram α) :
    ∃ answers a, p.Yields answers a ∧ ∀ x ∈ answers, allowed x := by
  induction p with
  | done a => exact ⟨[], a, .done a, nofun⟩
  | modified path next ih =>
    obtain ⟨answer, ok⟩ := modified path
    obtain ⟨answers, a, yields, others⟩ := ih answer
    exact ⟨_, a, .modified answer yields, List.forall_mem_cons.2 ⟨ok, others⟩⟩
  | read path next ih =>
    obtain ⟨answer, ok⟩ := read path
    obtain ⟨answers, a, yields, others⟩ := ih answer
    exact ⟨_, a, .read answer yields, List.forall_mem_cons.2 ⟨ok, others⟩⟩

/-- Whatever it is answered, what the work comes to has a property. -/
inductive Always (P : α → Prop) : FileProgram α → Prop
  | done {a : α} (holds : P a) : Always P (.done a)
  | modified {path : String} {next : Except FileFailure Moment → FileProgram α}
      (each : ∀ answer, Always P (next answer)) : Always P (.modified path next)
  | read {path : String} {next : Except FileFailure Octets → FileProgram α}
      (each : ∀ answer, Always P (next answer)) : Always P (.read path next)

theorem Always.of_yields {P : α → Prop} {p : FileProgram α} (always : p.Always P)
    (h : p.Yields answers a) : P a := by
  induction h with
  | done a =>
    cases always with
    | done holds => exact holds
  | modified answer rest ih =>
    cases always with
    | modified each => exact ih (each answer)
  | read answer rest ih =>
    cases always with
    | read each => exact ih (each answer)

/-- After some answers the work makes the call that `a` answers. -/
def Asks (p : FileProgram α) (answers : List FileAnswer) (a : FileAnswer) : Prop :=
  ∃ more result, p.Yields (answers ++ a :: more) result

/-- The answers that files which stand still give. -/
def answersOf (fs : FileSystem) : FileProgram α → List FileAnswer
  | .done _ => []
  | .modified path next =>
    .modified path (fs.modified path) :: answersOf fs (next (fs.modified path))
  | .read path next => .read path (fs.read path) :: answersOf fs (next (fs.read path))

/-- Files that stand still are a special case of files that may answer anything. -/
theorem yields_run (fs : FileSystem) (p : FileProgram α) :
    p.Yields (p.answersOf fs) (p.run fs) := by
  induction p with
  | done a => exact .done a
  | modified path next ih => exact .modified _ (ih _)
  | read path next ih => exact .read _ (ih _)

end FileProgram
end CredentialRotation
