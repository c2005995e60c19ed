import Mathlib.Algebra.BigOperators.Fin
import NetSentinel.Analysis.RealEntropy
import NetSentinel.Gpu.Phases

namespace NetSentinel.Gpu

open Barrier Finset

section Sums

theorem sum_flatMap {α β : Type*} (f : β → ℝ) (parts : List α) (items : α → List β) :
    ((parts.flatMap items).map f).sum = (parts.map fun part => ((items part).map f).sum).sum := by
  induction parts with
  | nil => rfl
  | cons part parts ih =>
    rw [List.flatMap_cons, List.map_append, List.sum_append, ih, List.map_cons, List.sum_cons]

variable {threads : Nat} {arguments : KernelArguments}

theorem sum_partialSum {payload : List UInt8} (hold : arguments.Hold payload)
    {bins : Fin threads → List UInt32} (once : VisitsOnce bins 256) :
    ∑ thread, (partialSum arguments (histogramOf payload) (bins thread) : ℝ) =
      shannonEntropy payload := by
  by_cases bytes : payload = []
  · have empty : ¬ 0 < arguments.length := by
      rw [UInt32.lt_iff_toNat_lt, hold.length, bytes]
      exact Nat.lt_irrefl 0
    simp only [partialSum, if_neg empty, shannonEntropy, if_pos bytes]
    exact Finset.sum_const_zero
  · have some : 0 < arguments.length := by
      rw [UInt32.lt_iff_toNat_lt, hold.length]
      exact List.length_pos_of_ne_nil bytes
    let term (bin : Nat) : ℝ :=
      binEntropy payload.length ((histogramOf payload)[bin]?.getD 0)
    have each (thread : Fin threads) :
        (partialSum arguments (histogramOf payload) (bins thread) : ℝ) =
          ((bins thread).map fun bin => term bin.toNat).sum := by
      rw [partialSum, if_pos some, foldl_subtractBin, hold.length]
      exact zero_add _
    have small {bin : Nat} (below : bin ∈ List.range 256) : (UInt32.ofNat bin).toNat = bin :=
      UInt32.toNat_ofNat_of_lt' (Nat.lt_trans (List.mem_range.mp below) (by decide))
    calc
      ∑ thread, (partialSum arguments (histogramOf payload) (bins thread) : ℝ)
        = ((List.finRange threads).map fun thread =>
            ((bins thread).map fun bin => term bin.toNat).sum).sum := by
          simp only [each, Fin.sum_univ_def]
      _ = (((List.finRange threads).flatMap bins).map fun bin => term bin.toNat).sum :=
          (sum_flatMap _ _ _).symm
      _ = (((List.range 256).map UInt32.ofNat).map fun bin => term bin.toNat).sum :=
          (once.perm.map _).sum_eq
      _ = ((List.range 256).map term).sum := by
          rw [List.map_map]
          apply congrArg List.sum
          apply List.map_congr_left
          intro bin below
          rw [Function.comp_apply, small below]
      _ = shannonEntropy payload := (shannonEntropy_eq_sum bytes).symm

end Sums

section Reduction

variable {threads : Nat} (arguments : KernelArguments)

noncomputable def sumOf (memory : Threadgroup threads ℝ) (n : Nat) : ℝ :=
  ∑ i ∈ range n, memory.partialSums (UInt32.ofNat i)

theorem runPhase_adding (small : threads ≤ 256) {stride : UInt32}
    (half : 2 * stride.toNat ≤ threads) (memory : Threadgroup threads ℝ) :
    let after := runPhase (perform arguments) (List.finRange threads) (adding stride) memory
    after.entropies = memory.entropies ∧
      sumOf after stride.toNat = sumOf memory (2 * stride.toNat) := by
  intro after
  have own : OwnStore (R := ℝ) arguments (adding stride : Phase (Fin threads) Action) _ :=
    adding_ownStore small half
  obtain ⟨-, entropies, sums, -⟩ := own.runPhase small (List.nodup_finRange threads) memory
  refine ⟨entropies, ?_⟩
  have added {i : Nat} (below : i < stride.toNat) : after.partialSums (UInt32.ofNat i) =
      memory.partialSums (UInt32.ofNat i) + memory.partialSums (UInt32.ofNat (stride.toNat + i)) := by
    let thread : Fin threads := ⟨i, by omega⟩
    have inside : tidOf thread < stride := (tidOf_lt_iff small thread stride).mpr below
    have right : tidOf thread + stride = UInt32.ofNat (stride.toNat + i) := by
      rw [UInt32.ofNat_add, UInt32.ofNat_toNat, UInt32.add_comm]
      rfl
    have here := sums thread (List.mem_finRange thread)
    rwa [if_pos inside, right] at here
  calc
    sumOf after stride.toNat
      = ∑ i ∈ range stride.toNat, (memory.partialSums (UInt32.ofNat i) +
          memory.partialSums (UInt32.ofNat (stride.toNat + i))) :=
        sum_congr rfl fun i below => added (mem_range.mp below)
    _ = sumOf memory (2 * stride.toNat) := by
        rw [sum_add_distrib, sumOf, two_mul, sum_range_add]

theorem runPhases_adding (small : threads ≤ 256) (k : Nat) {stride : UInt32}
    (size : stride.toNat = 2 ^ k / 2) (inside : 2 ^ k ≤ threads) (memory : Threadgroup threads ℝ) :
    let after :=
      runPhases (perform arguments) (List.finRange threads) ((strides stride).map adding) memory
    after.entropies = memory.entropies ∧ after.partialSums 0 = sumOf memory (2 ^ k) := by
  induction k generalizing stride memory with
  | zero =>
    rw [strides_of_zero size]
    refine ⟨rfl, ?_⟩
    rw [sumOf, pow_zero, sum_range_one]
    rfl
  | succ k ih =>
    have size : stride.toNat = 2 ^ k := by omega
    have lower : 2 * stride.toNat ≤ threads := by omega
    obtain ⟨next, half⟩ := strides_of_pow size
    obtain ⟨entropies, sums⟩ := runPhase_adding arguments small lower memory
    obtain ⟨laterEntropies, last⟩ := ih half (by omega)
      (runPhase (perform arguments) (List.finRange threads) (adding stride) memory)
    rw [next, List.map_cons]
    refine ⟨laterEntropies.trans entropies, last.trans ?_⟩
    rw [← size, sums, pow_succ', size]

theorem runPhase_storing (present : 0 < threads) (small : threads ≤ 256)
    (memory : Threadgroup threads ℝ) :
    runPhase (perform arguments) (List.finRange threads) storing memory =
      { memory with
        entropies := Function.update memory.entropies arguments.payload (memory.partialSums 0) } := by
  obtain ⟨n, rfl⟩ := Nat.exists_eq_succ_of_ne_zero (Nat.ne_of_gt present)
  have others : ∀ thread ∈ (List.finRange n).map Fin.succ,
      (storing : Phase (Fin (n + 1)) Action) thread = [] := by
    intro thread member
    obtain ⟨i, -, rfl⟩ := List.mem_map.mp member
    have later : tidOf i.succ ≠ 0 := by
      intro first
      have := congrArg UInt32.toNat first
      rw [toNat_tidOf small] at this
      exact absurd this (Nat.succ_ne_zero _)
    rw [storing, if_neg later]
  rw [List.finRange_succ]
  exact runPhase_idle others _

end Reduction

section Dispatch

variable {threads : Nat} (arguments : KernelArguments)

abbrev Run : Group (Fin threads) Action (Threadgroup threads ℝ) →
    Group (Fin threads) Action (Threadgroup threads ℝ) → Prop :=
  Relation.ReflTransGen (Step (perform arguments))

/-- The code behind the barrier that follows the stores of the partial sums. -/
def reduction (threads : Nat) : List (Phase (Fin threads) Action) :=
  (strides (UInt32.ofNat threads / 2)).map adding ++ [storing]

/-- What the threadgroup of a payload does from a given memory on, in every interleaving. -/
structure KernelSpec (payload : List UInt8) (bins indices : Fin threads → List UInt32)
    (memory : Threadgroup threads ℝ) : Prop where
  bins_once : VisitsOnce bins 256
  bytes_once : VisitsOnce indices arguments.length
  raceFree : ∀ phase ∈ segments arguments bins indices, RaceFree phase
  terminates : WellFounded fun after group : Group (Fin threads) Action (Threadgroup threads ℝ) =>
    Step (perform arguments) group after
  finishes : ∀ group, Run arguments ⟨segments arguments bins indices, memory⟩ group →
    ∃ finish, Run arguments group finish ∧ finish.phases = []
  counted : ∀ after,
    Run arguments ⟨segments arguments bins indices, memory⟩
      ⟨summing arguments bins :: reduction threads, after⟩ →
    after.histogram = histogramOf payload
  reduced : ∀ before after, Run arguments ⟨reduction threads, before⟩ ⟨[storing], after⟩ →
    after.partialSums 0 = ∑ thread : Fin threads, before.partialSums (tidOf thread)
  entropy : ∀ finish, Run arguments ⟨segments arguments bins indices, memory⟩ finish →
    finish.phases = [] →
    finish.memory.entropies =
      Function.update memory.entropies arguments.payload (shannonEntropy payload)

variable {arguments}

theorem forall_segments {bins indices : Fin threads → List UInt32}
    {property : Phase (Fin threads) Action → Prop} (clear : property (clearing bins))
    (count : property (counting indices)) (sum : property (summing arguments bins))
    (add : ∀ stride ∈ strides (UInt32.ofNat threads / 2), property (adding stride))
    (store : property storing) : ∀ phase ∈ segments arguments bins indices, property phase := by
  intro phase member
  simp only [segments, List.mem_append, List.mem_cons, List.not_mem_nil, or_false,
    List.mem_map] at member
  obtain (rfl | rfl | rfl) | ⟨stride, first, rfl⟩ | rfl := member
  · exact clear
  · exact count
  · exact sum
  · exact add stride first
  · exact store

theorem sumOf_threads (memory : Threadgroup threads ℝ) :
    sumOf memory threads = ∑ thread : Fin threads, memory.partialSums (tidOf thread) :=
  sum_range fun i => memory.partialSums (UInt32.ofNat i)

theorem toNat_half {k : Nat} (size : threads = 2 ^ k) (small : threads ≤ 256) :
    (UInt32.ofNat threads / 2).toNat = 2 ^ k / 2 := by
  have whole : (UInt32.ofNat threads).toNat = threads :=
    UInt32.toNat_ofNat_of_lt' (Nat.lt_of_le_of_lt small (by decide))
  rw [UInt32.toNat_div, whole, size]
  rfl

theorem runPhases_counting {payload : List UInt8} (hold : arguments.Hold payload)
    {bins indices : Fin threads → List UInt32} (binsOnce : VisitsOnce bins 256)
    (bytesOnce : VisitsOnce indices arguments.length) (memory : Threadgroup threads ℝ) :
    runPhases (perform arguments) (List.finRange threads) [clearing bins, counting indices] memory =
      { memory with histogram := histogramOf payload } := by
  change runPhase _ _ (counting indices) (runPhase _ _ (clearing bins) memory) = _
  rw [runPhase_clearing binsOnce]
  exact runPhase_counting hold bytesOnce rfl

theorem entropies_runPhases {k : Nat} (size : threads = 2 ^ k) (small : threads ≤ 256)
    {payload : List UInt8} (hold : arguments.Hold payload) {bins indices : Fin threads → List UInt32}
    (binsOnce : VisitsOnce bins 256) (bytesOnce : VisitsOnce indices arguments.length)
    (memory : Threadgroup threads ℝ) :
    (runPhases (perform arguments) (List.finRange threads) (segments arguments bins indices)
      memory).entropies =
        Function.update memory.entropies arguments.payload (shannonEntropy payload) := by
  have present : 0 < threads := size ▸ Nat.two_pow_pos k
  let order := List.finRange threads
  let counted : Threadgroup threads ℝ := { memory with histogram := histogramOf payload }
  let summed := runPhase (perform arguments) order (summing arguments bins) counted
  let reduced :=
    runPhases (perform arguments) order ((strides (UInt32.ofNat threads / 2)).map adding) summed
  have run : runPhases (perform arguments) order (segments arguments bins indices) memory =
      runPhase (perform arguments) order storing reduced := by
    have split : segments arguments bins indices =
        [clearing bins, counting indices] ++ summing arguments bins :: reduction threads := rfl
    rw [split, runPhases_append, runPhases_counting hold binsOnce bytesOnce]
    change runPhases _ order (reduction threads) summed = _
    rw [reduction, runPhases_append]
    rfl
  have own : OwnStore (R := ℝ) arguments (summing arguments bins) _ := summing_ownStore bins
  obtain ⟨-, kept, sums, -⟩ := own.runPhase small (List.nodup_finRange threads) counted
  obtain ⟨stillKept, total⟩ :=
    runPhases_adding arguments small k (toNat_half size small) (Nat.le_of_eq size.symm) summed
  have each (thread : Fin threads) : summed.partialSums (tidOf thread) =
      partialSum arguments (histogramOf payload) (bins thread) :=
    sums thread (List.mem_finRange thread)
  rw [run, runPhase_storing arguments present small]
  change Function.update reduced.entropies _ (reduced.partialSums 0) = _
  rw [stillKept, kept, total, ← size, sumOf_threads]
  simp only [each, sum_partialSum hold binsOnce]
  rfl

theorem kernel_meets_spec {k : Nat} (size : threads = 2 ^ k) (small : threads ≤ 256)
    {payload : List UInt8} (hold : arguments.Hold payload) {bins indices : Fin threads → List UInt32}
    (binsOnce : VisitsOnce bins 256) (bytesOnce : VisitsOnce indices arguments.length)
    (memory : Threadgroup threads ℝ) : KernelSpec arguments payload bins indices memory := by
  have distinct := List.nodup_finRange threads
  have all : ∀ thread, thread ∈ List.finRange threads := List.mem_finRange
  have half : ∀ stride ∈ strides (UInt32.ofNat threads / 2), 2 * stride.toNat ≤ threads := by
    rw [size]
    exact strides_half k (size ▸ toNat_half size small)
  have independent : ∀ phase ∈ segments arguments bins indices,
      Independent (perform (R := ℝ) arguments) phase :=
    forall_segments (clearing_independent arguments bins) (counting_independent arguments indices)
      (summing_independent arguments small bins)
      (fun stride first => adding_independent arguments small (half stride first))
      (storing_independent arguments small)
  refine ⟨binsOnce, bytesOnce, ?_, terminates distinct all, ?_, ?_, ?_, ?_⟩
  · exact forall_segments (clearing_raceFree bins) (counting_raceFree indices)
      (summing_raceFree small arguments bins)
      (fun stride first => adding_raceFree small (half stride first))
      (storing_raceFree (size ▸ Nat.two_pow_pos k))
  · intro group _
    exact finishes distinct all group
  · intro after run
    have early : ∀ phase ∈ [clearing bins, counting indices],
        Independent (perform (R := ℝ) arguments) phase :=
      fun phase member => independent phase (List.mem_append_left _ (List.mem_append_left [_] member))
    rw [memory_at distinct all early run, runPhases_counting hold binsOnce bytesOnce]
  · intro before after run
    have late : ∀ phase ∈ (strides (UInt32.ofNat threads / 2)).map adding,
        Independent (perform (R := ℝ) arguments) (phase : Phase (Fin threads) Action) :=
      fun phase member => independent phase (List.mem_append_right _ (List.mem_append_left _ member))
    obtain ⟨-, total⟩ :=
      runPhases_adding arguments small k (toNat_half size small) (Nat.le_of_eq size.symm) before
    rw [memory_at distinct all late run, total, ← size, sumOf_threads]
  · intro finish run finished
    have same := (result_of_leads distinct all independent run).2
    rw [finished] at same
    exact (congrArg Threadgroup.entropies same).trans
      (entropies_runPhases size small hold binsOnce bytesOnce memory)

/-- The host comes to a power of two for every device, and for every such size of a threadgroup the
    kernel computes the entropy that the processor computes. -/
theorem kernel_computes_shannonEntropy {threads k : Nat} (size : threads = 2 ^ k)
    (small : threads ≤ 256) (arguments : KernelArguments) (payload : List UInt8)
    (short : payload.length + 256 < 2 ^ 32) (hold : arguments.Hold payload) :
    (∀ limit, 1 ≤ limit → ∃ j ≤ 8, threadgroupSize limit 256 = 2 ^ j ∧ 2 ^ j ≤ limit) ∧
    ∃ bins indices : Fin threads → List UInt32,
      payloadEntropy threads arguments = some (segments arguments bins indices) ∧
      ∀ memory, KernelSpec arguments payload bins indices memory := by
  refine ⟨fun limit accepts => threadgroupSize_pow accepts 8, ?_⟩
  have present : 0 < threads := size ▸ Nat.two_pow_pos k
  have enough : (256 : UInt32).toNat ≤ 256 := Nat.le_refl 256
  obtain ⟨bins, binsRun, binsOnce⟩ := strided_loops_visit_once present small (by decide) enough
  have room : arguments.length.toNat + 256 ≤ UInt32.size := by
    rw [hold.length]
    exact Nat.le_of_lt short
  obtain ⟨indices, indicesRun, bytesOnce⟩ :=
    strided_loops_visit_once present small room (Nat.le_refl _)
  refine ⟨bins, indices, ?_, kernel_meets_spec size small hold binsOnce bytesOnce⟩
  simp only [payloadEntropy, binsRun, indicesRun]
  rfl

def secondPayload : KernelArguments where
  data i := [5, 7, 7, 9].getD i.toNat 0
  offsets payload := payload
  lengths payload := if payload = 0 then 1 else 3
  payload := 1

theorem secondPayload_computes_shannonEntropy :
    secondPayload.Hold [7, 7, 9] ∧ ∃ bins indices : Fin 2 → List UInt32,
      payloadEntropy 2 secondPayload = some (segments secondPayload bins indices) ∧
      ∀ memory, KernelSpec secondPayload [7, 7, 9] bins indices memory := by
  have hold : secondPayload.Hold [7, 7, 9] := by
    constructor
    · decide
    · decide
  exact ⟨hold, (kernel_computes_shannonEntropy (pow_one 2).symm (by decide) secondPayload [7, 7, 9]
    (by decide) hold).2⟩

end Dispatch

end NetSentinel.Gpu
