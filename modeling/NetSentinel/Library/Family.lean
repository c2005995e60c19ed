import Mathlib.Algebra.BigOperators.Group.Finset.Piecewise
import Mathlib.Data.Fintype.BigOperators
import Mathlib.Tactic.Abel

namespace Family

variable {ι β M : Type*} [DecidableEq ι] {f : ι → β} {changed index : ι} {value place : β}

theorem update_cases (found : Function.update f changed value index = place) :
    index = changed ∧ value = place ∨ index ≠ changed ∧ f index = place := by
  by_cases same : index = changed
  · subst same
    rw [Function.update_self] at found
    exact .inl ⟨rfl, found⟩
  · rw [Function.update_of_ne same] at found
    exact .inr ⟨same, found⟩

theorem update_seen {γ : Type*} (see : β → γ) {seen : γ}
    (found : see (Function.update f changed value index) = seen) :
    index = changed ∧ see value = seen ∨ index ≠ changed ∧ see (f index) = seen := by
  rcases update_cases (rfl : Function.update f changed value index = _) with
    ⟨same, new⟩ | ⟨apart, old⟩
  · exact .inl ⟨same, by rw [new, found]⟩
  · exact .inr ⟨apart, by rw [old, found]⟩

theorem update_or (test : β → Bool) (holds : test (Function.update f changed value index)) :
    test value ∨ test (f index) := by
  rcases update_cases (rfl : Function.update f changed value index = _) with ⟨-, new⟩ | ⟨-, old⟩
  · rw [new]
    exact .inl holds
  · rw [old]
    exact .inr holds

theorem holds_before (test : β → Bool) (lacks : test value = false)
    (holds : test (Function.update f changed value index)) : test (f index) := by
  rcases update_or test holds with new | old
  · rw [lacks] at new
    cases new
  · exact old

theorem update_stays (here : f index = place) (elsewhere : f changed ≠ place) :
    Function.update f changed value index = place := by
  have apart : index ≠ changed := by
    intro same
    rw [← same] at elsewhere
    exact elsewhere here
  rw [Function.update_of_ne apart, here]

theorem update_keeps {γ : Type*} (see : β → γ) (same : see value = see (f changed)) (index : ι) :
    see (Function.update f changed value index) = see (f index) := by
  rcases update_cases (rfl : Function.update f changed value index = _) with
    ⟨here, new⟩ | ⟨-, old⟩
  · rw [← new, same, here]
  · rw [← old]

omit [DecidableEq ι] in
theorem at_default [Unique ι] (found : f index = place) : f default = place := by
  rw [← Unique.eq_default index]
  exact found

theorem update_default [Unique ι] : Function.update f changed value default = value := by
  rw [Unique.eq_default changed, Function.update_self]

theorem exists_update {test : β → Bool} (lacks : test (f changed) = false)
    (holds : ∃ index, test (f index)) :
    ∃ index, test (Function.update f changed value index) := by
  obtain ⟨index, has⟩ := holds
  have apart : index ≠ changed := by
    intro same
    rw [same, lacks] at has
    cases has
  exact ⟨index, by rwa [Function.update_of_ne apart]⟩

variable [Fintype ι] [AddCommMonoid M]

theorem sum_update (count : β → M) (f : ι → β) (index : ι) (value : β) :
    (∑ other, count (Function.update f index value other)) + count (f index) =
      (∑ other, count (f other)) + count value := by
  have after := Finset.add_sum_erase Finset.univ
    (fun other => count (Function.update f index value other)) (Finset.mem_univ index)
  have before := Finset.add_sum_erase Finset.univ (fun other => count (f other))
    (Finset.mem_univ index)
  have rest : ∑ other ∈ Finset.univ.erase index, count (Function.update f index value other) =
      ∑ other ∈ Finset.univ.erase index, count (f other) := by
    refine Finset.sum_congr rfl fun other member => ?_
    rw [Function.update_of_ne (Finset.ne_of_mem_erase member)]
  rw [← after, ← before, rest, Function.update_self]
  abel

omit [DecidableEq ι] in
theorem sum_of_idle (count : β → M) {f : ι → β} {idle : β} (all : ∀ index, f index = idle)
    (nothing : count idle = 0) : (∑ index, count (f index)) = 0 := by
  refine Finset.sum_eq_zero fun index _ => ?_
  rw [all index, nothing]

theorem sum_update_same (count : β → M) (f : ι → β) {index : ι} {value : β}
    (same : count value = count (f index)) :
    (∑ other, count (Function.update f index value other)) = ∑ other, count (f other) :=
  Finset.sum_congr rfl fun other _ => update_keeps count same other

end Family
