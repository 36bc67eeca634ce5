import CredentialRotation.Proofs.Files.Answers
import Mathlib.Data.List.Forall2

/-!
Two pieces of work over files, side by side. As long as their calls are answered alike they make the
same calls, and what they come to is alike.
-/
namespace CredentialRotation.FileProgram
variable {α β γ δ : Type} {E : FileAnswer → FileAnswer → Prop} {R : α → β → Prop}
  {S : γ → δ → Prop}

/-- Both pieces of work make the same calls and come to results that `R` relates, as long as `E`
relates the answers that they get. -/
inductive Related (E : FileAnswer → FileAnswer → Prop) (R : α → β → Prop) :
    FileProgram α → FileProgram β → Prop
  | done {a : α} {b : β} (related : R a b) : Related E R (.done a) (.done b)
  | modified {path : String} {next : Except FileFailure Moment → FileProgram α}
      {next' : Except FileFailure Moment → FileProgram β}
      (each : ∀ x y, E (.modified path x) (.modified path y) → Related E R (next x) (next' y)) :
    Related E R (.modified path next) (.modified path next')
  | read {path : String} {next : Except FileFailure Octets → FileProgram α}
      {next' : Except FileFailure Octets → FileProgram β}
      (each : ∀ x y, E (.read path x) (.read path y) → Related E R (next x) (next' y)) :
    Related E R (.read path next) (.read path next')

namespace Related
variable {p : FileProgram α} {q : FileProgram β} {f : α → FileProgram γ} {g : β → FileProgram δ}
  {answers answers' : List FileAnswer} {a : α} {b : β} {fs fs' : FileSystem}

theorem of_yields (related : p.Related E R q) (h : p.Yields answers a) (h' : q.Yields answers' b)
    (alike : List.Forall₂ E answers answers') : R a b := by
  induction related generalizing answers answers' with
  | done related =>
    obtain ⟨-, rfl⟩ := yields_done_iff.1 h
    obtain ⟨-, rfl⟩ := yields_done_iff.1 h'
    exact related
  | modified each ih =>
    obtain ⟨x, rest, rfl, goesOn⟩ := yields_modified_iff.1 h
    obtain ⟨y, rest', rfl, goesOn'⟩ := yields_modified_iff.1 h'
    obtain ⟨first, others⟩ := List.forall₂_cons.1 alike
    exact ih x y first goesOn goesOn' others
  | read each ih =>
    obtain ⟨x, rest, rfl, goesOn⟩ := yields_read_iff.1 h
    obtain ⟨y, rest', rfl, goesOn'⟩ := yields_read_iff.1 h'
    obtain ⟨first, others⟩ := List.forall₂_cons.1 alike
    exact ih x y first goesOn goesOn' others

theorem bind (first : p.Related E R q) (rest : ∀ a b, R a b → (f a).Related E S (g b)) :
    (p.bind f).Related E S (q.bind g) := by
  induction first with
  | done related => exact rest _ _ related
  | modified each ih => exact .modified ih
  | read each ih => exact .read ih

/-- Files that stand still, and would answer all calls alike, do so for related work. -/
theorem answersOf (related : p.Related E R q)
    (modified : ∀ path, E (.modified path (fs.modified path)) (.modified path (fs'.modified path)))
    (read : ∀ path, E (.read path (fs.read path)) (.read path (fs'.read path))) :
    List.Forall₂ E (p.answersOf fs) (q.answersOf fs') := by
  induction related with
  | done related => exact .nil
  | modified each ih => exact .cons (modified _) (ih _ _ (modified _))
  | read each ih => exact .cons (read _) (ih _ _ (read _))

end Related
end CredentialRotation.FileProgram
