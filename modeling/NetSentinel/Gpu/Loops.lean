import Mathlib.Algebra.Order.Ring.Nat
import NetSentinel.Gpu.Kernel

namespace NetSentinel.Gpu

theorem next_on_stride {step first x : Nat} (later : first < x)
    (same : x % step = first % step) : first + step ≤ x := by
  have divides : step ∣ x - first := Nat.dvd_of_mod_eq_zero (Nat.sub_mod_eq_zero_of_mod_eq same)
  have := Nat.le_of_dvd (by omega) divides
  omega

theorem stridedLoop_visits {bound step : UInt32} (positive : 0 < step.toNat)
    (room : bound.toNat + step.toNat ≤ UInt32.size) (fuel : Nat) (i : UInt32)
    (enough : bound.toNat - i.toNat ≤ fuel) :
    ∃ visited, stridedLoop bound step fuel i = some visited ∧ visited.Nodup ∧
      ∀ x, x ∈ visited ↔
        i.toNat ≤ x.toNat ∧ x < bound ∧ x.toNat % step.toNat = i.toNat % step.toNat := by
  have nothing (i : UInt32) (outside : ¬ i < bound) (x : UInt32) :
      x ∈ ([] : List UInt32) ↔
        i.toNat ≤ x.toNat ∧ x < bound ∧ x.toNat % step.toNat = i.toNat % step.toNat := by
    rw [UInt32.lt_iff_toNat_lt] at outside ⊢
    simp only [List.not_mem_nil, false_iff]
    omega
  induction fuel generalizing i with
  | zero =>
    have outside : ¬ i < bound := by
      rw [UInt32.lt_iff_toNat_lt]
      omega
    refine ⟨[], ?_, List.nodup_nil, nothing i outside⟩
    rw [stridedLoop, if_neg outside]
  | succ fuel ih =>
    by_cases inside : i < bound
    · have below : i.toNat < bound.toNat := UInt32.lt_iff_toNat_lt.mp inside
      have next : (i + step).toNat = i.toNat + step.toNat := by
        rw [UInt32.toNat_add]
        apply Nat.mod_eq_of_lt
        change i.toNat + step.toNat < UInt32.size
        omega
      obtain ⟨visited, run, distinct, members⟩ := ih (i + step) (by omega)
      simp only [next, Nat.add_mod_right] at members
      refine ⟨i :: visited, ?_, List.nodup_cons.mpr ⟨?_, distinct⟩, ?_⟩
      · rw [stridedLoop, if_pos inside, run]
        rfl
      · intro again
        have := (members i).mp again
        omega
      · intro x
        rw [List.mem_cons, members]
        constructor
        · rintro (rfl | ⟨late, below, same⟩)
          · exact ⟨Nat.le_refl _, inside, rfl⟩
          · exact ⟨by omega, below, same⟩
        · rintro ⟨late, below, same⟩
          by_cases first : x = i
          · exact .inl first
          · have later : i.toNat < x.toNat := by
              have := UInt32.toNat_inj.not.mpr first
              omega
            exact .inr ⟨next_on_stride later same, below, same⟩
    · refine ⟨[], ?_, List.nodup_nil, nothing i inside⟩
      rw [stridedLoop, if_neg inside]

/-- The threads together visit everything below `bound`, each value once. -/
structure VisitsOnce {threads : Nat} (visited : Fin threads → List UInt32) (bound : UInt32) :
    Prop where
  inside : ∀ thread, ∀ x ∈ visited thread, x < bound
  distinct : ∀ thread, (visited thread).Nodup
  visitor : ∀ x < bound, ∃! thread, x ∈ visited thread

theorem VisitsOnce.perm {threads : Nat} {visited : Fin threads → List UInt32} {bound : UInt32}
    (once : VisitsOnce visited bound) :
    ((List.finRange threads).flatMap visited).Perm
      ((List.range bound.toNat).map UInt32.ofNat) := by
  have small {i : Nat} (below : i < bound.toNat) : (UInt32.ofNat i).toNat = i :=
    UInt32.toNat_ofNat_of_lt' (Nat.lt_trans below bound.toNat_lt)
  apply (List.perm_ext_iff_of_nodup ?_ ?_).mpr
  · intro x
    simp only [List.mem_flatMap, List.mem_map, List.mem_range, List.mem_finRange, true_and]
    constructor
    · rintro ⟨thread, member⟩
      exact ⟨x.toNat, UInt32.lt_iff_toNat_lt.mp (once.inside thread x member), UInt32.ofNat_toNat⟩
    · rintro ⟨i, below, rfl⟩
      have inside : UInt32.ofNat i < bound := by
        rw [UInt32.lt_iff_toNat_lt, small below]
        exact below
      exact (once.visitor _ inside).exists
  · rw [List.nodup_flatMap]
    refine ⟨fun thread _ => once.distinct thread, ?_⟩
    apply (List.nodup_finRange threads).imp
    intro one other apart x first second
    have visitor := once.visitor x (once.inside one x first)
    exact apart (visitor.unique first second)
  · apply List.Nodup.map_on _ List.nodup_range
    intro i below j also same
    rw [List.mem_range] at below also
    have := congrArg UInt32.toNat same
    rwa [small below, small also] at this

section Threads

variable {threads : Nat}

theorem collect_of_all {β : Type*} {results : Fin threads → Option β} {found : Fin threads → β}
    (all : ∀ thread, results thread = some (found thread)) : collect results = some found := by
  have known : ∀ thread, (results thread).isSome := by
    intro thread
    rw [all thread]
    rfl
  rw [collect, dif_pos known]
  congr
  funext thread
  simp only [all thread, Option.get_some]

theorem toNat_tidOf (small : threads ≤ 256) (thread : Fin threads) :
    (tidOf thread).toNat = thread.val := by
  have := thread.isLt
  apply UInt32.toNat_ofNat_of_lt'
  change thread.val < 2 ^ 32
  omega

theorem tidOf_injective (small : threads ≤ 256) :
    Function.Injective (tidOf : Fin threads → UInt32) := by
  intro thread other same
  have := congrArg UInt32.toNat same
  rw [toNat_tidOf small, toNat_tidOf small] at this
  exact Fin.ext this

theorem strided_loops_visit_once (present : 0 < threads) (small : threads ≤ 256) {bound : UInt32}
    (room : bound.toNat + 256 ≤ UInt32.size) {fuel : Nat} (enough : bound.toNat ≤ fuel) :
    ∃ visited : Fin threads → List UInt32,
      (collect fun thread => stridedLoop bound (UInt32.ofNat threads) fuel (tidOf thread)) =
        some visited ∧ VisitsOnce visited bound := by
  have size : (UInt32.ofNat threads).toNat = threads := by
    apply UInt32.toNat_ofNat_of_lt'
    change threads < 2 ^ 32
    omega
  have each (thread : Fin threads) := @stridedLoop_visits bound (UInt32.ofNat threads)
    (by omega) (by omega) fuel (tidOf thread) (by omega)
  choose visited run distinct members using each
  refine ⟨visited, collect_of_all run, fun thread x member => ((members thread x).mp member).2.1,
    distinct, ?_⟩
  intro x below
  have onStride (thread : Fin threads) : x ∈ visited thread ↔ x.toNat % threads = thread.val := by
    have start := thread.isLt
    rw [members, size, toNat_tidOf small, Nat.mod_eq_of_lt start]
    constructor
    · rintro ⟨-, -, same⟩
      exact same
    · intro same
      have := Nat.mod_le x.toNat threads
      exact ⟨by omega, below, same⟩
  refine ⟨⟨x.toNat % threads, Nat.mod_lt _ present⟩, (onStride _).mpr rfl, ?_⟩
  intro other visits
  exact Fin.ext ((onStride other).mp visits).symm

end Threads

theorem strides_of_zero {stride : UInt32} (size : stride.toNat = 0) : strides stride = [] := by
  have done : ¬ 0 < stride := by
    rw [UInt32.lt_iff_toNat_lt, size]
    exact Nat.lt_irrefl 0
  rw [strides, if_neg done]

theorem strides_of_pow {k : Nat} {stride : UInt32} (size : stride.toNat = 2 ^ k) :
    strides stride = stride :: strides (stride / 2) ∧ (stride / 2).toNat = 2 ^ k / 2 := by
  have positive : 0 < stride := by
    rw [UInt32.lt_iff_toNat_lt, size]
    exact Nat.two_pow_pos k
  constructor
  · rw [strides, if_pos positive]
  · rw [UInt32.toNat_div, size]
    rfl

theorem strides_half (k : Nat) {stride : UInt32} (size : stride.toNat = 2 ^ k / 2) :
    ∀ other ∈ strides stride, 2 * other.toNat ≤ 2 ^ k := by
  induction k generalizing stride with
  | zero =>
    rw [strides_of_zero size]
    exact List.forall_mem_nil _
  | succ k ih =>
    have size : stride.toNat = 2 ^ k := by omega
    obtain ⟨next, half⟩ := strides_of_pow size
    rw [next]
    intro other member
    obtain rfl | later := List.mem_cons.mp member
    · omega
    · have := ih half other later
      omega

theorem threadgroupSize_pow {limit : Nat} (accepts : 1 ≤ limit) (j : Nat) :
    ∃ k ≤ j, threadgroupSize limit (2 ^ j) = 2 ^ k ∧ 2 ^ k ≤ limit := by
  induction j with
  | zero =>
    refine ⟨0, Nat.le_refl _, ?_, accepts⟩
    rw [threadgroupSize, if_neg (by omega)]
  | succ j ih =>
    rw [threadgroupSize]
    by_cases big : limit < 2 ^ (j + 1)
    · have half : 2 ^ (j + 1) / 2 = 2 ^ j := by omega
      obtain ⟨k, below, size, fits⟩ := ih
      rw [if_pos big, half]
      exact ⟨k, by omega, size, fits⟩
    · rw [if_neg big]
      exact ⟨j + 1, Nat.le_refl _, rfl, by omega⟩

end NetSentinel.Gpu
