import CredentialRotation.Text.Blank

/-!
Text with white space put in, and how it is taken out again.
-/
namespace CredentialRotation

/-- `Spaced cs ds`: `ds` is `cs` with ASCII white space put in anywhere. -/
inductive Spaced : List Char → List Char → Prop
  | nil : Spaced [] []
  | keep (c : Char) {cs ds : List Char} (rest : Spaced cs ds) : Spaced (c :: cs) (c :: ds)
  | blank {b : Char} (blank : isAsciiBlank b = true) {cs ds : List Char} (rest : Spaced cs ds) :
    Spaced cs (b :: ds)

namespace Spaced
variable {cs ds : List Char}

theorem refl (cs : List Char) : Spaced cs cs := by
  induction cs with
  | nil => exact .nil
  | cons c cs ih => exact .keep c ih

/-- Whatever drops the white space that was put in, and nothing else, gives back the text. -/
theorem filter_eq (h : Spaced cs ds) {p : Char → Bool} (kept : ∀ c ∈ cs, p c = true)
    (dropped : ∀ c ∈ ds, isAsciiBlank c = true → p c = false) : ds.filter p = cs := by
  induction h with
  | nil => rfl
  | keep c rest ih =>
    obtain ⟨first, others⟩ := List.forall_mem_cons.1 kept
    rw [List.filter_cons_of_pos first, ih others (List.forall_mem_cons.1 dropped).2]
  | @blank b blank cs ds rest ih =>
    obtain ⟨first, others⟩ := List.forall_mem_cons.1 dropped
    rw [List.filter_cons_of_neg (by simp [first blank]), ih kept others]

theorem mem_or_blank (h : Spaced cs ds) {c : Char} (mem : c ∈ ds) :
    c ∈ cs ∨ isAsciiBlank c = true := by
  induction h with
  | nil => cases mem
  | keep d rest ih =>
    rcases List.mem_cons.1 mem with rfl | mem
    · exact .inl List.mem_cons_self
    · exact (ih mem).imp_left (List.mem_cons_of_mem d)
  | blank blank rest ih =>
    rcases List.mem_cons.1 mem with rfl | mem
    · exact .inr blank
    · exact ih mem

/-- Nothing of the text is lost. -/
theorem ne_nil (h : Spaced cs ds) (nonempty : cs ≠ []) : ds ≠ [] := by
  cases h with
  | nil => exact nonempty
  | keep c rest => exact List.cons_ne_nil c _
  | blank blank rest => exact List.cons_ne_nil _ _

end Spaced
end CredentialRotation
