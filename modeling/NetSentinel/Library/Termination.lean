import Mathlib.Algebra.Order.BigOperators.Group.Finset
import Mathlib.Data.Fintype.BigOperators
import NetSentinel.Library.TransitionSystem

/-! Runs in which every step that changes anything uses up some of the work that is left. -/

namespace TransitionSystem

variable {σ : Type*} {system : TransitionSystem σ}

def Halted (system : TransitionSystem σ) (state : σ) : Prop :=
  ∀ after, system.step state after → after = state

/-- A run that goes on as long as something can change, under any schedule. -/
def Runs (system : TransitionSystem σ) (run : Nat → σ) : Prop :=
  ∀ time, system.step (run time) (run (time + 1)) ∧ run (time + 1) ≠ run time ∨
    system.Halted (run time) ∧ run (time + 1) = run time

theorem Runs.leads {run : Nat → σ} (runs : system.Runs run) (time : Nat) :
    system.Leads (run 0) (run time) := by
  induction time with
  | zero => exact Relation.ReflTransGen.refl
  | succ time ih =>
    rcases runs time with ⟨step, -⟩ | ⟨-, same⟩
    · exact ih.tail step
    · rw [same]
      exact ih

theorem Runs.reachable {run : Nat → σ} (runs : system.Runs run) (begins : system.start (run 0))
    (time : Nat) : system.Reachable (run time) :=
  (Reachable.first begins).leads (runs.leads time)

open Classical in
theorem exists_runs (system : TransitionSystem σ) (first : σ) :
    ∃ run : Nat → σ, system.Runs run ∧ run 0 = first := by
  let next (state : σ) : σ :=
    if moves : ∃ after, system.step state after ∧ after ≠ state then moves.choose else state
  refine ⟨fun time => next^[time] first, fun time => ?_, rfl⟩
  dsimp only
  rw [Function.iterate_succ_apply']
  by_cases moves : ∃ after, system.step (next^[time] first) after ∧ after ≠ next^[time] first
  · have chosen : next (next^[time] first) = moves.choose := dif_pos moves
    rw [chosen]
    exact .inl moves.choose_spec
  · have stays : next (next^[time] first) = next^[time] first := dif_neg moves
    refine .inr ⟨fun after step => ?_, stays⟩
    by_contra changes
    exact moves ⟨after, step, changes⟩

theorem exists_runs_through {first state : σ} (leads : system.Leads first state) :
    ∃ (run : Nat → σ) (time : Nat), system.Runs run ∧ run 0 = first ∧ run time = state := by
  induction leads using Relation.ReflTransGen.head_induction_on with
  | refl =>
    obtain ⟨run, runs, begins⟩ := exists_runs system state
    exact ⟨run, 0, runs, begins, begins⟩
  | @head before after step rest ih =>
    obtain ⟨run, time, runs, begins, reaches⟩ := ih
    by_cases changes : after = before
    · exact ⟨run, time, runs, begins.trans changes, reaches⟩
    · refine ⟨fun | 0 => before | time + 1 => run time, time + 1, ?_, rfl, reaches⟩
      intro moment
      cases moment with
      | zero =>
        dsimp only
        rw [begins]
        exact .inl ⟨step, changes⟩
      | succ moment => exact runs moment

/-- What holds of every state from some time on, where each step spends some work and nothing halts
    short of the goal: the goal is reached, after at most as many steps as there is work. -/
theorem Runs.reaches (P goal : σ → Prop) (work : σ → Nat) {run : Nat → σ}
    (runs : system.Runs run) {time : Nat} (holds : ∀ later, time ≤ later → P (run later))
    (spends : ∀ state after, P state → system.step state after →
      after = state ∨ work after < work state)
    (moves : ∀ state, P state → goal state ∨ ∃ after, system.step state after ∧ after ≠ state) :
    ∃ later, time ≤ later ∧ later ≤ time + work (run time) ∧ goal (run later) := by
  induction left : work (run time) using Nat.strong_induction_on generalizing time with
  | _ left ih =>
    rcases moves _ (holds time le_rfl) with done | ⟨after, step, changes⟩
    · exact ⟨time, le_rfl, Nat.le_add_right _ _, done⟩
    · rcases runs time with ⟨moved, apart⟩ | ⟨halted, -⟩
      · have less := (spends _ _ (holds time le_rfl) moved).resolve_left apart
        have further : ∀ later, time + 1 ≤ later → P (run later) := fun later past =>
          holds later (Nat.le_of_succ_le past)
        obtain ⟨later, past, bound, done⟩ := ih _ (left ▸ less) further rfl
        exact ⟨later, by omega, by omega, done⟩
      · exact absurd (halted after step) changes

theorem sum_spends {ι : Type*} [Fintype ι] [DecidableEq ι] {before after : ι → Nat} (mover : ι)
    (others : ∀ index, index ≠ mover → after index ≤ before index) {rest left : Nat}
    (spends : after mover + rest < before mover + left) :
    (∑ index, after index) + rest < (∑ index, before index) + left := by
  have afterSplit := Finset.add_sum_erase Finset.univ after (Finset.mem_univ mover)
  have beforeSplit := Finset.add_sum_erase Finset.univ before (Finset.mem_univ mover)
  have kept : ∑ index ∈ Finset.univ.erase mover, after index ≤
      ∑ index ∈ Finset.univ.erase mover, before index :=
    Finset.sum_le_sum fun index member => others index (Finset.ne_of_mem_erase member)
  omega

end TransitionSystem
