import NetSentinel.Gpu.BatchPacking
import NetSentinel.Gpu.KernelEntropy
import NetSentinel.Library.Family
import NetSentinel.Library.Termination

namespace NetSentinel.Gpu

open Barrier Packing

variable {count threads : Nat} {R : Type*}

/-- The threadgroups of one dispatch. Each has a threadgroup memory of its own, and all of them
    write to one buffer of results. -/
structure Grid (count threads : Nat) (R : Type*) where
  groups : Fin count → Group (Fin threads) Action (Threadgroup threads R)
  results : UInt32 → R

def Threadgroup.withEntropies (group : Threadgroup threads R) (entropies : UInt32 → R) :
    Threadgroup threads R :=
  { group with entropies }

namespace Grid

def seen (grid : Grid count threads R) (index : Fin count) :
    Group (Fin threads) Action (Threadgroup threads R) where
  phases := (grid.groups index).phases
  memory := (grid.groups index).memory.withEntropies grid.results

/-- A thread of some threadgroup acts, or the threads of one pass a barrier. -/
inductive Step [Arithmetic R] [Add R] (arguments : Fin count → KernelArguments) :
    Grid count threads R → Grid count threads R → Prop
  | group {grid : Grid count threads R} (index : Fin count)
      (after : Group (Fin threads) Action (Threadgroup threads R))
      (step : Barrier.Step (perform (arguments index)) (grid.seen index) after) :
      Step arguments grid
        { groups := Function.update grid.groups index after, results := after.memory.entropies }

def dispatch [Arithmetic R] [Add R] (threads : Nat) (arguments : Fin count → KernelArguments) :
    TransitionSystem (Grid count threads R) where
  start grid :=
    ∀ index, payloadEntropy threads (arguments index) = some (grid.groups index).phases
  step := Step arguments

def Finished (grid : Grid count threads R) : Prop := ∀ index, (grid.groups index).phases = []

def left (grid : Grid count threads R) : Nat :=
  ∑ index, stepsLeft (List.finRange threads) (grid.groups index)

variable [Arithmetic R] [Add R] {arguments : Fin count → KernelArguments}
  {grid after : Grid count threads R}

theorem Step.spends (step : Step arguments grid after) : after.left + 1 = grid.left := by
  cases step with
  | group index after step =>
    have less := step.decreases (List.nodup_finRange threads) List.mem_finRange
    have moved := Family.sum_update (stepsLeft (List.finRange threads)) grid.groups index after
    change _ = stepsLeft (List.finRange threads) (grid.groups index) at less
    simp only [left]
    omega

theorem moves (grid : Grid count threads R) :
    grid.Finished ∨ ∃ after, Step arguments grid after := by
  by_cases finished : grid.Finished
  · exact .inl finished
  · obtain ⟨index, busy⟩ := not_forall.mp finished
    have ready : ∃ after, Barrier.Step (perform (arguments index)) (grid.seen index) after :=
      step_of_phases busy
    obtain ⟨after, step⟩ := ready
    exact .inr ⟨_, .group index after step⟩

theorem finishes {run : Nat → Grid count threads R} (runs : (dispatch threads arguments).Runs run) :
    ∃ time ≤ (run 0).left, (run time).Finished := by
  have spends : ∀ grid after : Grid count threads R, True → Step arguments grid after →
      after = grid ∨ after.left < grid.left := by
    intro grid after _ step
    have spent := step.spends
    omega
  have continues : ∀ grid : Grid count threads R, True →
      grid.Finished ∨ ∃ after, Step arguments grid after ∧ after ≠ grid := by
    intro grid _
    rcases grid.moves with finished | ⟨after, step⟩
    · exact .inl finished
    · refine .inr ⟨after, step, fun same => ?_⟩
      have spent := step.spends
      rw [same] at spent
      omega
  obtain ⟨time, -, bound, finished⟩ := runs.reaches (fun _ => True) Finished left
    (fun (later : Nat) (_ : 0 ≤ later) => trivial) spends continues
  exact ⟨time, by omega, finished⟩

end Grid

section Alone

variable {arguments : KernelArguments}

structure Alike (arguments : KernelArguments)
    (own beside : Group (Fin threads) Action (Threadgroup threads R)) : Prop where
  phases : beside.phases = own.phases
  memory : beside.memory = own.memory.withEntropies beside.memory.entropies
  result : beside.memory.entropies arguments.payload = own.memory.entropies arguments.payload

variable {own beside after : Group (Fin threads) Action (Threadgroup threads R)}

theorem Alike.disturbed (alike : Alike arguments own beside) {entropies : UInt32 → R}
    (kept : entropies arguments.payload = beside.memory.entropies arguments.payload) :
    Alike arguments own ⟨beside.phases, beside.memory.withEntropies entropies⟩ where
  phases := alike.phases
  memory := by
    rw [alike.memory]
    rfl
  result := kept.trans alike.result

variable [Arithmetic R] [Add R]

theorem perform_withEntropies (arguments : KernelArguments) (thread : Fin threads)
    (action : Action) (memory : Threadgroup threads R) (entropies : UInt32 → R) :
    let alone := perform arguments thread action memory
    let shared := perform arguments thread action (memory.withEntropies entropies)
    shared = alone.withEntropies shared.entropies ∧
      (∀ place ≠ arguments.payload, shared.entropies place = entropies place) ∧
      (entropies arguments.payload = memory.entropies arguments.payload →
        shared.entropies arguments.payload = alone.entropies arguments.payload) := by
  cases action with
  | storeEntropy =>
    refine ⟨rfl, fun place other => Function.update_of_ne other _ _, fun _ => ?_⟩
    change Function.update entropies _ (memory.partialSums 0) _ =
      Function.update memory.entropies _ (memory.partialSums 0) _
    rw [Function.update_self, Function.update_self]
  | _ => exact ⟨rfl, fun _ _ => rfl, id⟩

theorem Alike.step (alike : Alike arguments own beside)
    (step : Barrier.Step (perform arguments) beside after) :
    (∃ next, Barrier.Step (perform arguments) own next ∧ Alike arguments next after) ∧
      ∀ place ≠ arguments.payload,
        after.memory.entropies place = beside.memory.entropies place := by
  obtain ⟨phases, memory⟩ := own
  obtain ⟨samePhases, sameMemory, result⟩ := alike
  cases step with
  | @act current later shared thread action rest next =>
    dsimp only at samePhases sameMemory result
    obtain ⟨whole, others, here⟩ :=
      perform_withEntropies arguments thread action memory shared.entropies
    rw [← sameMemory] at whole others here
    refine ⟨⟨⟨Function.update current thread rest :: later, perform arguments thread action memory⟩,
      ?_, rfl, whole, here result⟩, others⟩
    rw [← samePhases]
    exact .act thread action rest next
  | @barrier current later shared arrived =>
    dsimp only at samePhases sameMemory result
    refine ⟨⟨⟨later, memory⟩, ?_, rfl, sameMemory, result⟩, fun _ _ => rfl⟩
    rw [← samePhases]
    exact .barrier arrived

end Alone

namespace Grid

variable [Arithmetic R] [Add R] {arguments : Fin count → KernelArguments}
  {first grid after : Grid count threads R}

/-- Every threadgroup has done what it could have done by itself, and nobody has touched the rest of
    the results. -/
structure Separate (arguments : Fin count → KernelArguments) (first grid : Grid count threads R) :
    Prop where
  alone : ∀ index, ∃ own,
    Relation.ReflTransGen (Barrier.Step (perform (arguments index))) (first.seen index) own ∧
      Alike (arguments index) own (grid.seen index)
  rest : ∀ place, (∀ index, (arguments index).payload ≠ place) →
    grid.results place = first.results place

theorem Separate.step (apart : Function.Injective fun index => (arguments index).payload)
    (separate : Separate arguments first grid) (step : Step arguments grid after) :
    Separate arguments first after := by
  cases step with
  | group mover moved step =>
    obtain ⟨own, run, alike⟩ := separate.alone mover
    obtain ⟨⟨next, ownStep, still⟩, others⟩ := alike.step step
    constructor
    · intro index
      by_cases same : index = mover
      · subst same
        refine ⟨next, run.tail ownStep, ?_⟩
        rw [seen]
        dsimp only
        rw [Function.update_self]
        exact still
      · obtain ⟨other, otherRun, otherAlike⟩ := separate.alone index
        have kept := others (arguments index).payload fun equal => same (apart equal)
        refine ⟨other, otherRun, ?_⟩
        rw [seen]
        dsimp only
        rw [Function.update_of_ne same]
        exact otherAlike.disturbed kept
    · intro place untouched
      exact (others place (untouched mover).symm).trans (separate.rest place untouched)

theorem separate_of_leads (apart : Function.Injective fun index => (arguments index).payload)
    (run : (dispatch threads arguments).Leads first grid) : Separate arguments first grid := by
  induction run with
  | refl => exact ⟨fun index => ⟨first.seen index, .refl, rfl, rfl, rfl⟩, fun _ _ => rfl⟩
  | tail _ last ih => exact ih.step apart last

end Grid

section Batch

theorem payloadEntropy_stores {k : Nat} (size : threads = 2 ^ k) (small : threads ≤ 256)
    {arguments : KernelArguments} {payload : List UInt8} (short : payload.length ≤ 65535)
    (hold : arguments.Hold payload) :
    ∃ phases, payloadEntropy threads arguments = some phases ∧
      ∀ memory finish, Run arguments ⟨phases, memory⟩ finish → finish.phases = [] →
        finish.memory.entropies arguments.payload = shannonEntropy payload := by
  have present : 0 < threads := size ▸ Nat.two_pow_pos k
  have room : arguments.length.toNat + 256 ≤ UInt32.size := by
    have bound : 65535 + 256 ≤ UInt32.size := by decide
    rw [hold.length]
    omega
  have enough : (256 : UInt32).toNat ≤ 256 := Nat.le_refl 256
  obtain ⟨bins, binsRun, binsOnce⟩ := strided_loops_visit_once present small (by decide) enough
  obtain ⟨indices, indicesRun, bytesOnce⟩ :=
    strided_loops_visit_once present small room (Nat.le_refl _)
  refine ⟨segments arguments bins indices, ?_, fun memory finish run finished => ?_⟩
  · simp only [payloadEntropy, binsRun, indicesRun]
    rfl
  · have spec := kernel_meets_spec size small hold binsOnce bytesOnce memory
    rw [spec.entropy finish run finished, Function.update_self]

variable (batch : EntropyBatch) (limit : Nat) (before : PackedBuffers)

def EntropyBatch.arguments (index : Fin batch.payloads.length) : KernelArguments :=
  (batch.packed before).arguments index

/-- The dispatch of a batch on a device that takes threadgroups of at most `limit` threads. -/
def EntropyBatch.dispatch [Arithmetic R] [Add R] :
    TransitionSystem (Grid batch.payloads.length (threadgroupSize limit 256) R) :=
  Grid.dispatch (threadgroupSize limit 256) (batch.arguments before)

variable {batch limit}

theorem EntropyBatch.payload_toNat (index : Fin batch.payloads.length) :
    (batch.arguments before index).payload.toNat = index :=
  batch.index_toNat index.isLt

theorem EntropyBatch.payloads_apart :
    Function.Injective fun index => (batch.arguments before index).payload := by
  intro index other same
  have equal := congrArg UInt32.toNat same
  dsimp only at equal
  rw [batch.payload_toNat, batch.payload_toNat] at equal
  exact Fin.ext equal

variable (fits : total batch.payloads ≤ 2 ^ 32)
  (starts : ∀ i < batch.payloads.length, start batch.payloads i < 2 ^ 32) (accepts : 1 ≤ limit)

include fits starts accepts

theorem EntropyBatch.stores (index : Fin batch.payloads.length) :
    ∃ phases, payloadEntropy (threadgroupSize limit 256) (batch.arguments before index) =
        some phases ∧
      ∀ memory finish, Run (batch.arguments before index) ⟨phases, memory⟩ finish →
        finish.phases = [] →
        finish.memory.entropies (batch.arguments before index).payload =
          shannonEntropy batch.payloads[index] := by
  obtain ⟨k, inside, size, -⟩ := threadgroupSize_pow accepts 8
  have small : threadgroupSize limit 256 ≤ 256 := by
    change threadgroupSize limit (2 ^ 8) ≤ 2 ^ 8
    rw [size]
    exact Nat.pow_le_pow_right (by decide) inside
  have lossless := batch.lossless_of_fits before fits starts
  exact payloadEntropy_stores size small (batch.size_le _ (List.getElem_mem index.isLt))
    (lossless.slices index index.isLt)

theorem EntropyBatch.results_of_finished
    {first grid : Grid batch.payloads.length (threadgroupSize limit 256) ℝ}
    (begins : (batch.dispatch limit before).start first)
    (run : (batch.dispatch limit before).Leads first grid) (finished : grid.Finished) :
    (∀ index : Fin batch.payloads.length,
      grid.results (UInt32.ofNat index) = shannonEntropy batch.payloads[index]) ∧
    ∀ place : UInt32, batch.payloads.length ≤ place.toNat →
      grid.results place = first.results place := by
  have separate := Grid.separate_of_leads (batch.payloads_apart before) run
  refine ⟨fun index => ?_, fun place past => separate.rest place fun index same => ?_⟩
  · obtain ⟨own, ownRun, alike⟩ := separate.alone index
    obtain ⟨phases, loops, stored⟩ := batch.stores before fits starts accepts index
    have begun : (first.groups index).phases = phases :=
      Option.some.inj ((begins index).symm.trans loops)
    rw [Grid.seen, begun] at ownRun
    exact alike.result.trans
      (stored _ own ownRun (alike.phases.symm.trans (finished index)))
  · have here := batch.payload_toNat before index
    rw [same] at here
    omega

end Batch

theorem EntropyBatch.starts (batch : EntropyBatch) (before : PackedBuffers)
    (fits : total batch.payloads ≤ 2 ^ 32)
    (starts : ∀ i < batch.payloads.length, start batch.payloads i < 2 ^ 32) {limit : Nat}
    (accepts : 1 ≤ limit) : ∃ first, (batch.dispatch (R := ℝ) limit before).start first := by
  choose phases loops stored using batch.stores before fits starts accepts
  refine ⟨⟨fun index => ⟨phases index, ?_⟩, fun _ => 0⟩, loops⟩
  exact ⟨Vector.replicate 256 0, fun _ => 0, fun _ => ⟨0, 0, 0⟩, fun _ => 0⟩

/-- However the threads of all threadgroups are scheduled, the dispatch of at most 2^20 payloads of at
    most 65535 bytes comes to its end, and its results are what the processor computes, payload by
    payload. -/
theorem dispatch_computes_entropies (batch : EntropyBatch) (before : PackedBuffers)
    (fits : total batch.payloads ≤ 2 ^ 32)
    (starts : ∀ i < batch.payloads.length, start batch.payloads i < 2 ^ 32) (limit : Nat)
    (accepts : 1 ≤ limit) :
    (∃ first, (batch.dispatch (R := ℝ) limit before).start first) ∧
    ∀ run, (batch.dispatch (R := ℝ) limit before).Runs run →
      (batch.dispatch limit before).start (run 0) →
      ∃ time ≤ (run 0).left, (run time).Finished ∧
        (∀ index : Fin batch.payloads.length,
          (run time).results (UInt32.ofNat index) = shannonEntropy batch.payloads[index]) ∧
        ∀ place : UInt32, batch.payloads.length ≤ place.toNat →
          (run time).results place = (run 0).results place := by
  constructor
  · exact batch.starts before fits starts accepts
  · intro run runs begins
    obtain ⟨time, bound, finished⟩ := Grid.finishes runs
    exact ⟨time, bound, finished,
      batch.results_of_finished before fits starts accepts begins (runs.leads time) finished⟩

def pairBatch : EntropyBatch where
  payloads := [[7, 7, 9], []]
  count_le := by decide
  size_le := by decide

theorem pair_batch_is_computed :
    ∃ (run : Nat → Grid pairBatch.payloads.length (threadgroupSize 64 256) ℝ) (time : Nat),
      (pairBatch.dispatch 64 zeroBuffers).Runs run ∧ (run time).Finished ∧
        (run time).results 0 = shannonEntropy [7, 7, 9] ∧
        (run time).results 1 = shannonEntropy [] := by
  obtain ⟨⟨first, begins⟩, every⟩ := dispatch_computes_entropies pairBatch zeroBuffers (by decide)
    (by decide) 64 (by decide)
  obtain ⟨run, runs, rfl⟩ := TransitionSystem.exists_runs (pairBatch.dispatch 64 zeroBuffers) first
  obtain ⟨time, -, finished, computed, -⟩ := every run runs begins
  exact ⟨run, time, runs, finished, computed ⟨0, by decide⟩, computed ⟨1, by decide⟩⟩

end NetSentinel.Gpu
