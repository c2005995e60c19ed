import Mathlib.Data.Vector.Basic
import NetSentinel.Gpu.Loops

namespace NetSentinel.Gpu

open Barrier

variable {threads : Nat} {R : Type*}

section Accesses

def readsPartial (thread : Fin threads) : Action → Option UInt32
  | .loadRight stride => some (tidOf thread + stride)
  | .loadLeft => some (tidOf thread)
  | .storeEntropy => some 0
  | _ => none

def writesPartial (thread : Fin threads) : Action → Option UInt32
  | .storeSum | .storePartial => some (tidOf thread)
  | _ => none

/-- The partial sums a phase touches are there, and what one of its threads writes is left alone by
    the others. -/
structure RaceFree (phase : Phase (Fin threads) Action) : Prop where
  inside : ∀ thread, ∀ action ∈ phase thread, ∀ i,
    readsPartial thread action = some i ∨ writesPartial thread action = some i → i.toNat < threads
  apart : ∀ thread other, thread ≠ other → ∀ action ∈ phase thread, ∀ step ∈ phase other, ∀ i,
    writesPartial other step = some i →
      readsPartial thread action ≠ some i ∧ writesPartial thread action ≠ some i

theorem mem_summing {arguments : KernelArguments} {bins : Fin threads → List UInt32}
    {thread : Fin threads} {action : Action} (member : action ∈ summing arguments bins thread) :
    action = .startSum ∨ (∃ bin, action = .addBin bin) ∨ action = .storeSum := by
  simp only [summing, List.mem_cons, List.mem_append, List.not_mem_nil, or_false] at member
  obtain rfl | member | rfl := member
  · exact .inl rfl
  · split at member
    · obtain ⟨bin, -, rfl⟩ := List.mem_map.mp member
      exact .inr (.inl ⟨bin, rfl⟩)
    · cases member
  · exact .inr (.inr rfl)

theorem mem_adding {stride : UInt32} {thread : Fin threads} {action : Action}
    (member : action ∈ adding stride thread) :
    tidOf thread < stride ∧
      (action = .loadRight stride ∨ action = .loadLeft ∨ action = .storePartial) := by
  rw [adding] at member
  split at member
  · rename_i below
    simp only [List.mem_cons, List.not_mem_nil, or_false] at member
    exact ⟨below, member⟩
  · cases member

theorem mem_storing {thread : Fin threads} {action : Action}
    (member : action ∈ storing thread) : tidOf thread = 0 ∧ action = .storeEntropy := by
  rw [storing] at member
  split at member
  · rename_i first
    exact ⟨first, List.mem_singleton.mp member⟩
  · cases member

theorem raceFree_of_untouched {phase : Phase (Fin threads) Action}
    (untouched : ∀ thread, ∀ action ∈ phase thread,
      readsPartial thread action = none ∧ writesPartial thread action = none) : RaceFree phase := by
  constructor
  · intro thread action member i touches
    obtain ⟨reads, writes⟩ := untouched thread action member
    rw [reads, writes] at touches
    cases touches <;> contradiction
  · intro thread other _ action _ step member i writes
    rw [(untouched other step member).2] at writes
    cases writes

theorem clearing_raceFree (bins : Fin threads → List UInt32) : RaceFree (clearing bins) := by
  apply raceFree_of_untouched
  intro thread action member
  obtain ⟨bin, -, rfl⟩ := List.mem_map.mp member
  exact ⟨rfl, rfl⟩

theorem counting_raceFree (indices : Fin threads → List UInt32) : RaceFree (counting indices) := by
  apply raceFree_of_untouched
  intro thread action member
  obtain ⟨i, -, rfl⟩ := List.mem_map.mp member
  exact ⟨rfl, rfl⟩

theorem summing_raceFree (small : threads ≤ 256) (arguments : KernelArguments)
    (bins : Fin threads → List UInt32) : RaceFree (summing arguments bins) := by
  constructor
  · intro thread action member i touches
    obtain rfl | ⟨bin, rfl⟩ | rfl := mem_summing member
    · cases touches <;> contradiction
    · cases touches <;> contradiction
    · obtain reads | writes := touches
      · cases reads
      · cases writes
        rw [toNat_tidOf small]
        exact thread.isLt
  · intro thread other different action here step there i writes
    obtain rfl | ⟨bin, rfl⟩ | rfl := mem_summing there
    · cases writes
    · cases writes
    · cases writes
      have elsewhere := (tidOf_injective small).ne different
      obtain rfl | ⟨bin, rfl⟩ | rfl := mem_summing here
      · exact ⟨nofun, nofun⟩
      · exact ⟨nofun, nofun⟩
      · exact ⟨nofun, fun same => elsewhere (Option.some.inj same)⟩

theorem tidOf_add (small : threads ≤ 256) {stride : UInt32} (half : 2 * stride.toNat ≤ threads)
    (thread : Fin threads) : (tidOf thread + stride).toNat = thread.val + stride.toNat := by
  have := thread.isLt
  rw [UInt32.toNat_add, toNat_tidOf small]
  apply Nat.mod_eq_of_lt
  omega

theorem tidOf_lt_iff (small : threads ≤ 256) (thread : Fin threads) (stride : UInt32) :
    tidOf thread < stride ↔ thread.val < stride.toNat := by
  rw [UInt32.lt_iff_toNat_lt, toNat_tidOf small]

theorem tidOf_add_ne (small : threads ≤ 256) {stride : UInt32} (half : 2 * stride.toNat ≤ threads)
    (thread : Fin threads) {other : Fin threads} (below : tidOf other < stride) :
    tidOf thread + stride ≠ tidOf other := by
  intro same
  have := congrArg UInt32.toNat same
  rw [tidOf_add small half, toNat_tidOf small] at this
  rw [tidOf_lt_iff small] at below
  omega

theorem adding_raceFree (small : threads ≤ 256) {stride : UInt32}
    (half : 2 * stride.toNat ≤ threads) :
    RaceFree (adding stride : Phase (Fin threads) Action) := by
  constructor
  · intro thread action member i touches
    obtain ⟨below, kinds⟩ := mem_adding member
    rw [tidOf_lt_iff small] at below
    have own : (tidOf thread).toNat < threads := by
      rw [toNat_tidOf small]
      exact thread.isLt
    obtain rfl | rfl | rfl := kinds
    · obtain reads | writes := touches
      · cases reads
        rw [tidOf_add small half]
        omega
      · cases writes
    · obtain reads | writes := touches
      · cases reads
        exact own
      · cases writes
    · obtain reads | writes := touches
      · cases reads
      · cases writes
        exact own
  · intro thread other different action here step there i writes
    obtain ⟨below, rfl | rfl | rfl⟩ := mem_adding there
    · cases writes
    · cases writes
    · cases writes
      have elsewhere := (tidOf_injective small).ne different
      have upper := tidOf_add_ne small half thread below
      obtain ⟨-, rfl | rfl | rfl⟩ := mem_adding here
      · exact ⟨fun same => upper (Option.some.inj same), nofun⟩
      · exact ⟨fun same => elsewhere (Option.some.inj same), nofun⟩
      · exact ⟨nofun, fun same => elsewhere (Option.some.inj same)⟩

theorem storing_raceFree (present : 0 < threads) :
    RaceFree (storing : Phase (Fin threads) Action) := by
  constructor
  · intro thread action member i touches
    obtain ⟨-, rfl⟩ := mem_storing member
    obtain reads | writes := touches
    · cases reads
      exact present
    · cases writes
  · intro thread other _ action _ step there i writes
    obtain ⟨-, rfl⟩ := mem_storing there
    cases writes

end Accesses

section Order

variable [Arithmetic R] [Add R] (arguments : KernelArguments)

theorem clearing_independent (bins : Fin threads → List UInt32) :
    Independent (perform (R := R) arguments) (clearing bins) := by
  intro thread other _ action here step there memory
  obtain ⟨bin, -, rfl⟩ := List.mem_map.mp here
  obtain ⟨otherBin, -, rfl⟩ := List.mem_map.mp there
  simp only [perform]
  congr 1
  ext i below
  simp only [Vector.getElem_setIfInBounds]
  grind

theorem counting_independent (indices : Fin threads → List UInt32) :
    Independent (perform (R := R) arguments) (counting indices) := by
  intro thread other _ action here step there memory
  obtain ⟨i, -, rfl⟩ := List.mem_map.mp here
  obtain ⟨j, -, rfl⟩ := List.mem_map.mp there
  simp only [perform]
  rw [increment_commutes]

theorem summing_independent (small : threads ≤ 256) (bins : Fin threads → List UInt32) :
    Independent (perform (R := R) arguments) (summing arguments bins) := by
  intro thread other different action here step there memory
  have elsewhere := (tidOf_injective small).ne different
  obtain rfl | ⟨bin, rfl⟩ | rfl := mem_summing here <;>
  obtain rfl | ⟨otherBin, rfl⟩ | rfl := mem_summing there <;>
    simp [perform, Threadgroup.setRegisters, Threadgroup.count, Function.update_of_ne, different,
      different.symm, Function.update_comm different, Function.update_comm elsewhere]

theorem adding_independent (small : threads ≤ 256) {stride : UInt32}
    (half : 2 * stride.toNat ≤ threads) :
    Independent (perform (R := R) arguments) (adding stride : Phase (Fin threads) Action) := by
  intro thread other different action here step there memory
  have elsewhere := (tidOf_injective small).ne different
  obtain ⟨below, kinds⟩ := mem_adding here
  obtain ⟨otherBelow, otherKinds⟩ := mem_adding there
  have upper := tidOf_add_ne small half thread otherBelow
  have otherUpper := tidOf_add_ne small half other below
  obtain rfl | rfl | rfl := kinds <;> obtain rfl | rfl | rfl := otherKinds <;>
    simp [perform, Threadgroup.setRegisters, Function.update_of_ne, different, different.symm,
      elsewhere, elsewhere.symm, upper, otherUpper, Function.update_comm different,
      Function.update_comm elsewhere]

theorem storing_independent (small : threads ≤ 256) :
    Independent (perform (R := R) arguments) (storing : Phase (Fin threads) Action) := by
  intro thread other different action here step there memory
  have same := (mem_storing here).1.trans (mem_storing there).1.symm
  exact (different (tidOf_injective small same)).elim

end Order

section Histograms

variable [Arithmetic R] [Add R] {arguments : KernelArguments}

theorem runThread_histogram (make : UInt32 → Action) (change : Histogram → UInt32 → Histogram)
    (only : ∀ thread x (memory : Threadgroup threads R), perform arguments thread (make x) memory =
      { memory with histogram := change memory.histogram x })
    (thread : Fin threads) (visited : List UInt32) (memory : Threadgroup threads R) :
    runThread (perform arguments) thread (visited.map make) memory =
      { memory with histogram := visited.foldl change memory.histogram } := by
  induction visited generalizing memory with
  | nil => rfl
  | cons x visited ih =>
    change runThread _ thread (visited.map make) (perform arguments thread (make x) memory) = _
    rw [ih, only]
    rfl

theorem runPhase_histogram (make : UInt32 → Action) (change : Histogram → UInt32 → Histogram)
    (only : ∀ thread x (memory : Threadgroup threads R), perform arguments thread (make x) memory =
      { memory with histogram := change memory.histogram x })
    (order : List (Fin threads)) (visited : Fin threads → List UInt32)
    (memory : Threadgroup threads R) :
    runPhase (perform arguments) order (fun thread => (visited thread).map make) memory =
      { memory with histogram := (order.flatMap visited).foldl change memory.histogram } := by
  induction order generalizing memory with
  | nil => rfl
  | cons head order ih =>
    change runPhase _ order _ (runThread _ head ((visited head).map make) memory) = _
    rw [ih, runThread_histogram make change only, List.flatMap_cons, List.foldl_append]

theorem getElem_foldl_clear (visited : List UInt32) (histogram : Histogram) {i : Nat}
    (below : i < 256) :
    (visited.foldl (fun histogram bin => histogram.setIfInBounds bin.toNat 0) histogram)[i] =
      if i ∈ visited.map UInt32.toNat then 0 else histogram[i] := by
  induction visited generalizing histogram with
  | nil => rfl
  | cons bin visited ih =>
    rw [List.foldl_cons, ih, Vector.getElem_setIfInBounds, List.map_cons]
    by_cases later : i ∈ visited.map UInt32.toNat
    · rw [if_pos later, if_pos (List.mem_cons_of_mem _ later)]
    · rw [if_neg later]
      by_cases here : bin.toNat = i
      · rw [if_pos here, if_pos (List.mem_cons.mpr (.inl here.symm))]
      · have absent : i ∉ bin.toNat :: visited.map UInt32.toNat := by
          rw [List.mem_cons]
          exact not_or.mpr ⟨Ne.symm here, later⟩
        rw [if_neg here, if_neg absent]

theorem runPhase_clearing {bins : Fin threads → List UInt32} (once : VisitsOnce bins 256)
    (memory : Threadgroup threads R) :
    runPhase (perform arguments) (List.finRange threads) (clearing bins) memory =
      { memory with histogram := Vector.replicate 256 0 } := by
  let clear (histogram : Histogram) (bin : UInt32) := histogram.setIfInBounds bin.toNat 0
  apply (runPhase_histogram .clearBin clear (fun _ _ _ => rfl) _ bins memory).trans
  congr 1
  apply Vector.ext
  intro i below
  have size : (UInt32.ofNat i).toNat = i :=
    UInt32.toNat_ofNat_of_lt' (Nat.lt_trans below (by decide))
  have visited : i ∈ ((List.finRange threads).flatMap bins).map UInt32.toNat := by
    apply List.mem_map.mpr
    refine ⟨UInt32.ofNat i, once.perm.mem_iff.mpr ?_, size⟩
    exact List.mem_map.mpr ⟨i, List.mem_range.mpr below, rfl⟩
  rw [getElem_foldl_clear _ _ below, if_pos visited, Vector.getElem_replicate]

structure KernelArguments.Hold (arguments : KernelArguments) (payload : List UInt8) : Prop where
  length : arguments.length.toNat = payload.length
  bytes : ∀ i (inside : i < payload.length),
    arguments.data (arguments.offset + UInt32.ofNat i) = payload[i]

theorem runPhase_counting {indices : Fin threads → List UInt32} {payload : List UInt8}
    (hold : arguments.Hold payload) (once : VisitsOnce indices arguments.length)
    {memory : Threadgroup threads R} (cleared : memory.histogram = Vector.replicate 256 0) :
    runPhase (perform arguments) (List.finRange threads) (counting indices) memory =
      { memory with histogram := histogramOf payload } := by
  let count (histogram : Histogram) (i : UInt32) :=
    histogram.increment (arguments.data (arguments.offset + i))
  have bytes : (List.range arguments.length.toNat).map
      (fun i => arguments.data (arguments.offset + UInt32.ofNat i)) = payload := by
    apply List.ext_getElem
    · rw [List.length_map, List.length_range, hold.length]
    · intro i _ inside
      rw [List.getElem_map, List.getElem_range, hold.bytes i inside]
  have : RightCommutative count := ⟨fun histogram i j => increment_commutes histogram _ _⟩
  apply (runPhase_histogram .countByte count (fun _ _ _ => rfl) _ indices memory).trans
  rw [once.perm.foldl_eq, cleared, List.foldl_map, histogramOf]
  conv_rhs => rw [← bytes, List.foldl_map]

end Histograms

section Sums

def Threadgroup.store (group : Threadgroup threads R) (thread : Fin threads)
    (registers : Fin threads → Registers R) (value : R) : Threadgroup threads R :=
  { group with
    registers := registers
    partialSums := Function.update group.partialSums (tidOf thread) value }

theorem store_partialSums_of_ne {group : Threadgroup threads R} {thread : Fin threads}
    {registers : Fin threads → Registers R} {value : R} {i : UInt32} (apart : i ≠ tidOf thread) :
    (group.store thread registers value).partialSums i = group.partialSums i :=
  Function.update_of_ne apart _ _

variable [Arithmetic R] [Add R] {arguments : KernelArguments}

/-- Every thread of the phase stores `value` into its own partial sum, and what it stores does not
    depend on what the others store. -/
structure OwnStore (arguments : KernelArguments) (phase : Phase (Fin threads) Action)
    (value : Fin threads → Threadgroup threads R → R) : Prop where
  store : ∀ thread memory, ∃ registers,
    runThread (perform arguments) thread (phase thread) memory =
      memory.store thread registers (value thread memory)
  stable : ∀ thread other, thread ≠ other → ∀ memory registers,
    value thread (memory.store other registers (value other memory)) = value thread memory

theorem OwnStore.runPhase {phase : Phase (Fin threads) Action}
    {value : Fin threads → Threadgroup threads R → R} (own : OwnStore arguments phase value)
    (small : threads ≤ 256) {order : List (Fin threads)} (distinct : order.Nodup)
    (memory : Threadgroup threads R) :
    let after := Barrier.runPhase (perform arguments) order phase memory
    after.histogram = memory.histogram ∧ after.entropies = memory.entropies ∧
      (∀ thread ∈ order, after.partialSums (tidOf thread) = value thread memory) ∧
      ∀ thread ∉ order, after.partialSums (tidOf thread) = memory.partialSums (tidOf thread) := by
  induction order generalizing memory with
  | nil => exact ⟨rfl, rfl, List.forall_mem_nil _, fun _ _ => rfl⟩
  | cons head order ih =>
    obtain ⟨fresh, distinct⟩ := List.nodup_cons.mp distinct
    obtain ⟨registers, stored⟩ := own.store head memory
    obtain ⟨histogram, entropies, values, kept⟩ :=
      ih distinct (memory.store head registers (value head memory))
    intro after
    have unfolded : after = Barrier.runPhase (perform arguments) order phase
        (memory.store head registers (value head memory)) := by
      rw [← stored]
      rfl
    rw [unfolded]
    refine ⟨histogram, entropies, ?_, ?_⟩
    · intro thread member
      obtain rfl | later := List.mem_cons.mp member
      · rw [kept thread fresh]
        exact Function.update_self _ _ _
      · have apart : thread ≠ head := by
          rintro rfl
          exact fresh later
        rw [values thread later, own.stable thread head apart]
    · intro thread absent
      obtain ⟨apart, absent⟩ := not_or.mp (List.mem_cons.not.mp absent)
      rw [kept thread absent, store_partialSums_of_ne ((tidOf_injective small).ne apart)]

def partialSum (arguments : KernelArguments) (histogram : Histogram) (bins : List UInt32) : R :=
  if 0 < arguments.length then
    bins.foldl (fun sum bin =>
      subtractBin (arguments.length.toNat : R) sum (histogram[bin.toNat]?.getD 0)) 0
  else 0

theorem runThread_addBins (thread : Fin threads) (bins : List UInt32)
    (memory : Threadgroup threads R) :
    runThread (perform arguments) thread (bins.map .addBin) memory =
      memory.setRegisters thread
        { memory.registers thread with
          sum := bins.foldl (fun sum bin =>
            subtractBin (arguments.length.toNat : R) sum (memory.count bin))
            (memory.registers thread).sum } := by
  induction bins generalizing memory with
  | nil =>
    change memory = memory.setRegisters thread (memory.registers thread)
    rw [Threadgroup.setRegisters, Function.update_eq_self]
  | cons bin bins ih =>
    change runThread _ thread (bins.map Action.addBin)
      (perform arguments thread (.addBin bin) memory) = _
    rw [ih]
    simp [perform, Threadgroup.setRegisters, Threadgroup.count]

theorem summing_ownStore (bins : Fin threads → List UInt32) :
    OwnStore (R := R) arguments (summing arguments bins)
      fun thread memory => partialSum arguments memory.histogram (bins thread) := by
  constructor
  · intro thread memory
    let started := perform arguments thread .startSum memory
    have split : runThread (perform arguments) thread (summing arguments bins thread) memory =
        perform arguments thread .storeSum (runThread (perform arguments) thread
          (if 0 < arguments.length then (bins thread).map .addBin else []) started) := by
      rw [summing, runThread, List.foldl_cons, List.foldl_append]
      rfl
    rw [split, partialSum]
    by_cases bytes : 0 < arguments.length
    · rw [if_pos bytes, if_pos bytes]
      refine ⟨(runThread (perform arguments) thread ((bins thread).map .addBin)
        started).registers, ?_⟩
      rw [runThread_addBins]
      simp only [perform, Threadgroup.store, Threadgroup.setRegisters, Function.update_self, started]
      rfl
    · rw [if_neg bytes, if_neg bytes]
      refine ⟨started.registers, ?_⟩
      simp only [perform, runThread, List.foldl_nil, Threadgroup.store, Threadgroup.setRegisters,
        Function.update_self, started]
  · intro thread other _ memory registers
    rfl

theorem adding_ownStore (small : threads ≤ 256) {stride : UInt32}
    (half : 2 * stride.toNat ≤ threads) :
    OwnStore (R := R) arguments (adding stride : Phase (Fin threads) Action) fun thread memory =>
      if tidOf thread < stride then
        memory.partialSums (tidOf thread) + memory.partialSums (tidOf thread + stride)
      else memory.partialSums (tidOf thread) := by
  constructor
  · intro thread memory
    refine ⟨(runThread (perform arguments) thread (adding stride thread) memory).registers, ?_⟩
    by_cases below : tidOf thread < stride
    · rw [adding, if_pos below, if_pos below]
      simp [runThread, perform, Threadgroup.setRegisters, Threadgroup.store]
    · rw [adding, if_neg below, if_neg below, Threadgroup.store, Function.update_eq_self]
      rfl
  · intro thread other different memory registers
    have elsewhere := (tidOf_injective small).ne different
    by_cases otherBelow : tidOf other < stride
    · rw [store_partialSums_of_ne elsewhere,
        store_partialSums_of_ne (tidOf_add_ne small half thread otherBelow)]
    · rw [if_neg otherBelow, Threadgroup.store, Function.update_eq_self]

end Sums

end NetSentinel.Gpu
