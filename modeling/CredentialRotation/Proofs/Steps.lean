import Mathlib.Data.List.Forall2

/-!
Steps that may fail. Taken on the members of a list in order, they succeed together exactly if each
of them does, and otherwise fail as the first of them that fails.
-/
namespace CredentialRotation

section Failures
variable {ε δ α β : Type} {x : Except ε α} {f : ε → δ}

theorem eq_ok_of_toOption {a : α} (h : x.toOption = some a) : x = .ok a := by
  cases x with
  | ok b => exact congrArg Except.ok (Option.some.inj h)
  | error failure => cases h

theorem exists_eq_error_of_toOption (h : x.toOption = none) : ∃ failure, x = .error failure := by
  cases x with
  | ok a => cases h
  | error failure => exact ⟨failure, rfl⟩

theorem mapError_eq_ok_iff {a : α} : x.mapError f = .ok a ↔ x = .ok a := by
  cases x with
  | error failure => exact iff_of_false nofun nofun
  | ok b =>
    change Except.ok b = Except.ok a ↔ _
    rw [Except.ok.injEq, Except.ok.injEq]

theorem mapError_eq_error_iff {failure : δ} :
    x.mapError f = .error failure ↔ ∃ cause, x = .error cause ∧ failure = f cause := by
  cases x with
  | ok a => exact iff_of_false nofun nofun
  | error cause => simp [Except.mapError, eq_comm]

theorem mapError_bind (x : Except ε α) (f : α → Except ε β) (g : ε → δ) :
    (x.bind f).mapError g = (x.mapError g).bind fun a => (f a).mapError g := by
  cases x <;> rfl

end Failures

section Lists
variable {ε α β : Type} {f : α → Except ε β} {check : α → Except ε Unit} {xs : List α}

theorem mapM_eq_ok_iff {ys : List β} :
    xs.mapM f = .ok ys ↔ List.Forall₂ (fun x y => f x = .ok y) xs ys := by
  induction xs generalizing ys with
  | nil => cases ys <;> simp [pure, Except.pure]
  | cons x xs ih =>
    rw [List.mapM_cons]
    cases here : f x with
    | error failure => cases ys <;> simp [here, bind, Except.bind]
    | ok y =>
      cases others : xs.mapM f with
      | error failure => cases ys <;> simp [here, ← ih, others, bind, Except.bind]
      | ok more => cases ys <;> simp [here, ← ih, others, bind, Except.bind, pure, Except.pure]

/-- There is a first member on which the step fails, and it fails so. -/
def FirstFails (f : α → Except ε β) (xs : List α) (failure : ε) : Prop :=
  ∃ before x after, xs = before ++ x :: after ∧ (∀ b ∈ before, ∃ y, f b = .ok y) ∧
    f x = .error failure

theorem firstFails_cons_iff {x : α} {failure : ε} :
    FirstFails f (x :: xs) failure ↔
      f x = .error failure ∨ (∃ y, f x = .ok y) ∧ FirstFails f xs failure := by
  constructor
  · rintro ⟨before, x', after, joined, succeed, fails⟩
    cases before with
    | nil =>
      obtain ⟨rfl, rfl⟩ := List.cons.inj joined
      exact .inl fails
    | cons b before =>
      obtain ⟨rfl, rfl⟩ := List.cons.inj joined
      obtain ⟨first, others⟩ := List.forall_mem_cons.1 succeed
      exact .inr ⟨first, before, x', after, rfl, others, fails⟩
  · rintro (fails | ⟨first, before, x', after, rfl, others, fails⟩)
    · exact ⟨[], x, xs, rfl, List.forall_mem_nil _, fails⟩
    · exact ⟨x :: before, x', after, rfl, List.forall_mem_cons.2 ⟨first, others⟩, fails⟩

theorem mapM_eq_error_iff {failure : ε} : xs.mapM f = .error failure ↔ FirstFails f xs failure := by
  induction xs with
  | nil => simp [FirstFails, pure, Except.pure]
  | cons x xs ih =>
    rw [List.mapM_cons, firstFails_cons_iff, ← ih]
    cases f x with
    | error other => simp [bind, Except.bind]
    | ok y => cases xs.mapM f <;> simp [bind, Except.bind, pure, Except.pure]

theorem forM_eq_ok_iff : xs.forM check = .ok () ↔ ∀ x ∈ xs, check x = .ok () := by
  induction xs with
  | nil => exact iff_of_true rfl nofun
  | cons x xs ih =>
    rw [List.forall_mem_cons, ← ih]
    change (check x).bind (fun _ => xs.forM check) = .ok () ↔ _
    cases check x with
    | ok result => exact (and_iff_right rfl).symm
    | error failure => exact iff_of_false nofun fun h => nomatch h.1

theorem forM_eq_error_iff {failure : ε} :
    xs.forM check = .error failure ↔ FirstFails check xs failure := by
  induction xs with
  | nil => exact iff_of_false nofun fun ⟨_, _, _, split, _⟩ => by simp at split
  | cons x xs ih =>
    rw [firstFails_cons_iff, ← ih]
    change (check x).bind (fun _ => xs.forM check) = .error failure ↔ _
    cases check x with
    | ok result => simp [Except.bind]
    | error other => simp [Except.bind]

end Lists
end CredentialRotation
