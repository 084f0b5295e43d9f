import Mathlib.Tactic.Common

/-!
# Runs of a labelled step relation

`Run step s₀ tr s`: the labels of `tr` lead from `s₀` to `s`. An invariant may mention the labels
so far (`Run.invariant`).
-/

universe u v

variable {σ : Type u} {α : Type v} {step step' : σ → α → σ → Prop} {s₀ s s' : σ} {tr : List α}

inductive Run (step : σ → α → σ → Prop) (s₀ : σ) : List α → σ → Prop
  | nil : Run step s₀ [] s₀
  | snoc {tr : List α} {s s' : σ} {a : α} :
    Run step s₀ tr s → step s a s' → Run step s₀ (tr ++ [a]) s'

namespace Run

/-- What holds at the start and across every step of a run holds at its end. -/
theorem invariant {I : List α → σ → Prop} (h₀ : I [] s₀)
    (hstep : ∀ tr s a s', Run step s₀ tr s → I tr s → step s a s' → I (tr ++ [a]) s')
    (h : Run step s₀ tr s) : I tr s := by
  induction h with
  | nil => exact h₀
  | snoc hr ha ih => exact hstep _ _ _ _ hr ih ha

theorem mono (hs : ∀ s a s', step s a s' → step' s a s') (h : Run step s₀ tr s) :
    Run step' s₀ tr s := by
  induction h with
  | nil => exact .nil
  | snoc _ ha ih => exact .snoc ih (hs _ _ _ ha)

theorem append {tr' : List α} (h : Run step s₀ tr s) (h' : Run step s tr' s') :
    Run step s₀ (tr ++ tr') s' := by
  induction h' with
  | nil => rwa [List.append_nil]
  | snoc _ ha ih =>
    rw [← List.append_assoc]
    exact .snoc ih ha

/-- A run at one of its labels. -/
theorem exists_step {tr₁ tr₂ : List α} {a : α} (h : Run step s₀ (tr₁ ++ a :: tr₂) s) :
    ∃ s₁ s₂, Run step s₀ tr₁ s₁ ∧ step s₁ a s₂ ∧ Run step s₂ tr₂ s := by
  generalize htr : tr₁ ++ a :: tr₂ = tr at h
  induction h generalizing tr₂ with
  | nil => simp at htr
  | @snoc tr s s' b hr hb ih =>
    rcases List.eq_nil_or_concat tr₂ with rfl | ⟨tr₃, c, rfl⟩
    · obtain ⟨rfl, he⟩ := List.append_inj' htr rfl
      cases he
      exact ⟨s, s', hr, hb, .nil⟩
    · rw [List.concat_eq_append, ← List.cons_append, ← List.append_assoc] at htr
      obtain ⟨rfl, he⟩ := List.append_inj' htr rfl
      cases he
      obtain ⟨s₁, s₂, hr₁, ha, hr₂⟩ := ih rfl
      rw [List.concat_eq_append]
      exact ⟨s₁, s₂, hr₁, ha, .snoc hr₂ hb⟩

/-- Every label of a run is the label of a step from a state the run passes. -/
theorem exists_step_of_mem {a : α} (h : Run step s₀ tr s) (ha : a ∈ tr) :
    ∃ tr₁ tr₂ s₁ s₂, tr = tr₁ ++ a :: tr₂ ∧ Run step s₀ tr₁ s₁ ∧ step s₁ a s₂ := by
  induction h with
  | nil => cases ha
  | @snoc tr s s' b hr hb ih =>
    rcases List.mem_append.1 ha with ha | ha
    · obtain ⟨tr₁, tr₂, s₁, s₂, rfl, hr₁, hs⟩ := ih ha
      exact ⟨tr₁, tr₂ ++ [b], s₁, s₂, by simp, hr₁, hs⟩
    · rw [List.mem_singleton.1 ha]
      exact ⟨tr, [], s, s', rfl, hr, hb⟩

end Run
