import Mathlib.Data.List.Forall2

/-!
Runs of a labelled step relation. A history lists the labels of the steps, the earliest first; what
every step preserves holds after every history.
-/
namespace CredentialRotation

/-- `Run step s history t`: the steps of `history` lead from `s` to `t`. -/
inductive Run {σ ε : Type} (step : σ → ε → σ → Prop) : σ → List ε → σ → Prop
  | nil (s : σ) : Run step s [] s
  | cons {s t u : σ} {e : ε} {history : List ε} (first : step s e t) (rest : Run step t history u) :
    Run step s (e :: history) u

namespace Run
variable {σ ε : Type} {step : σ → ε → σ → Prop} {s t u : σ} {e : ε} {before after : List ε}

@[simp] theorem nil_iff : Run step s [] t ↔ s = t := by
  constructor
  · intro run
    cases run
    rfl
  · rintro rfl
    exact .nil s

@[simp] theorem cons_iff :
    Run step s (e :: after) u ↔ ∃ t, step s e t ∧ Run step t after u := by
  constructor
  · intro run
    cases run with
    | cons first rest => exact ⟨_, first, rest⟩
  · rintro ⟨t, first, rest⟩
    exact .cons first rest

/-- A run over a joined history passes through a state in between. -/
theorem append_iff :
    Run step s (before ++ after) u ↔ ∃ t, Run step s before t ∧ Run step t after u := by
  induction before generalizing s with
  | nil => simp
  | cons e before ih =>
    simp only [List.cons_append, cons_iff, ih]
    constructor
    · rintro ⟨t, first, v, left, right⟩
      exact ⟨v, ⟨t, first, left⟩, right⟩
    · rintro ⟨v, ⟨t, first, left⟩, right⟩
      exact ⟨t, first, v, left, right⟩

theorem concat_iff :
    Run step s (before ++ [e]) u ↔ ∃ t, Run step s before t ∧ step t e u := by
  rw [append_iff]
  simp

/-- Induction over a run from its start: what holds of the empty history and survives one more
step holds of every history and the state it leads to. -/
theorem holds_of_steps {P : List ε → σ → Prop} (start : P [] s)
    (preserved : ∀ past e t u, Run step s past t → P past t → step t e u → P (past ++ [e]) u)
    {history : List ε} (run : Run step s history t) : P history t := by
  -- Generalised over the part of the history that was already run.
  suffices h : ∀ past v, Run step s past v → P past v → Run step v history t →
      P (past ++ history) t by
    simpa using h [] s (.nil s) start run
  clear run
  induction history with
  | nil =>
    intro past v _ holds rest
    obtain rfl := nil_iff.1 rest
    simpa using holds
  | cons e history ih =>
    intro past v done holds rest
    obtain ⟨w, first, rest⟩ := cons_iff.1 rest
    have next := ih (past ++ [e]) w (concat_iff.2 ⟨v, done, first⟩)
      (preserved past e v w done holds first) rest
    simpa using next

/-- Every label of a history was a step. -/
theorem step_of_mem {history : List ε} (run : Run step s history t) (mem : e ∈ history) :
    ∃ u v, step u e v := by
  induction run with
  | nil s => cases mem
  | cons first rest ih =>
    rcases List.mem_cons.1 mem with rfl | later
    · exact ⟨_, _, first⟩
    · exact ih later

/-- A run whose every step is seen as one step of another kind, or as no change at all, is seen as a
run of that other kind. -/
theorem simulated {σ' ε' : Type} {step' : σ' → ε' → σ' → Prop} (view : σ → σ')
    (seen : ε → Option ε')
    (unseen : ∀ s e t, step s e t → seen e = none → view t = view s)
    (matched : ∀ s e t e', step s e t → seen e = some e' → step' (view s) e' (view t))
    {history : List ε} (run : Run step s history t) :
    Run step' (view s) (history.filterMap seen) (view t) := by
  induction run with
  | nil s => exact .nil _
  | @cons s t u e history first rest ih =>
    rw [List.filterMap_cons]
    cases sight : seen e with
    | none => rwa [unseen s e t first sight] at ih
    | some e' => exact .cons (matched s e t e' first sight) ih

/-- Two runs side by side. If steps with related labels keep the states related and have something
in common, so have the labels of the two histories, one by one. -/
theorem side_by_side {states : σ → σ → Prop} {labels common : ε → ε → Prop}
    (steps : ∀ s s' e e' t t', states s s' → labels e e' → step s e t → step s' e' t' →
      states t t' ∧ common e e')
    {s' t' : σ} {history history' : List ε} (start : states s s') (run : Run step s history t)
    (run' : Run step s' history' t') (related : List.Forall₂ labels history history') :
    states t t' ∧ List.Forall₂ common history history' := by
  induction related generalizing s s' with
  | nil =>
    obtain rfl := nil_iff.1 run
    obtain rfl := nil_iff.1 run'
    exact ⟨start, .nil⟩
  | cons first _ ih =>
    obtain ⟨u, step, rest⟩ := cons_iff.1 run
    obtain ⟨u', step', rest'⟩ := cons_iff.1 run'
    obtain ⟨next, both⟩ := steps _ _ _ _ _ _ start first step step'
    obtain ⟨last, others⟩ := ih next rest rest'
    exact ⟨last, .cons both others⟩

end Run
end CredentialRotation
