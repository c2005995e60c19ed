import Mathlib.Logic.Relation

structure TransitionSystem (σ : Type*) where
  start : σ → Prop
  step : σ → σ → Prop

namespace TransitionSystem

variable {σ τ : Type*} {system : TransitionSystem σ}

def Leads (system : TransitionSystem σ) : σ → σ → Prop := Relation.ReflTransGen system.step

def Reachable (system : TransitionSystem σ) (state : σ) : Prop :=
  ∃ first, system.start first ∧ system.Leads first state

theorem Reachable.first {state : σ} (start : system.start state) : system.Reachable state :=
  ⟨state, start, Relation.ReflTransGen.refl⟩

theorem Reachable.next {state after : σ} (reachable : system.Reachable state)
    (step : system.step state after) : system.Reachable after := by
  obtain ⟨first, start, run⟩ := reachable
  exact ⟨first, start, run.tail step⟩

theorem Reachable.leads {state after : σ} (reachable : system.Reachable state)
    (run : system.Leads state after) : system.Reachable after := by
  obtain ⟨first, start, earlier⟩ := reachable
  exact ⟨first, start, earlier.trans run⟩

/-- The invariant rule. The step may use that its source is reachable. -/
theorem Reachable.invariant {P : σ → Prop} (start : ∀ state, system.start state → P state)
    (step : ∀ state after, system.Reachable state → system.step state after → P state → P after)
    {state : σ} (reachable : system.Reachable state) : P state := by
  obtain ⟨first, begins, run⟩ := reachable
  induction run with
  | refl => exact start first begins
  | tail earlier last ih => exact step _ _ ⟨first, begins, earlier⟩ last ih

/-- A map that takes every step of one system to a step of another, or to no step at all, takes
    reachable states to reachable states. -/
theorem Reachable.map {abstract : TransitionSystem τ} {view : σ → τ}
    (start : ∀ state, system.start state → abstract.start (view state))
    (step : ∀ state after, system.Reachable state → system.step state after →
      abstract.step (view state) (view after) ∨ view after = view state)
    {state : σ} (reachable : system.Reachable state) : abstract.Reachable (view state) := by
  refine Reachable.invariant (P := fun state => abstract.Reachable (view state)) ?_ ?_ reachable
  · intro state begins
    exact Reachable.first (start state begins)
  · intro state after earlier last mapped
    rcases step state after earlier last with moved | same
    · exact mapped.next moved
    · rw [same]
      exact mapped

end TransitionSystem
