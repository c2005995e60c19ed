import NetSentinel.Analysis.EntropyBackend
import NetSentinel.Gpu.Grid

namespace NetSentinel.Gpu

open Packing

variable {σ : Type}

/-- What a dispatch over these buffers may leave in its results: some schedule has brought all of its
    threadgroups to the end of the kernel. -/
def PackedBuffers.Executes (buffers : PackedBuffers) (count threads : Nat) (results : UInt32 → ℝ) :
    Prop :=
  let dispatch := Grid.dispatch threads fun index : Fin count => buffers.arguments index
  ∃ first finish, dispatch.start first ∧ dispatch.Leads first finish ∧ finish.Finished ∧
    finish.results = results

/-- A Metal device as `submit_payload_entropy` and `wait` meet it: whether the kernel was loaded, what
    the buffers of a batch hold before it is copied, if they can be had, whether the queue has a
    command buffer, and how a committed dispatch ends, with its results or with an error. -/
structure MetalDevice (σ : Type) where
  loaded : Bool
  maxTotalThreadsPerThreadgroup : Nat
  accepts : 1 ≤ maxTotalThreadsPerThreadgroup
  buffers : σ → List (List UInt8) → σ × Option PackedBuffers
  commandBuffer : σ → σ × Bool
  complete : σ → (count threads : Nat) → PackedBuffers → σ × Option (UInt32 → ℝ)
  executes : ∀ state count threads buffers results,
    (complete state count threads buffers).2 = some results →
      buffers.Executes count threads results

/-- What `PendingGpuEntropy` keeps for `wait`: how its command ends, or that there was nothing to
    dispatch. -/
structure SubmittedEntropy where
  command : Option (Option (UInt32 → ℝ))
  count : Nat

def SubmittedEntropy.wait (pending : SubmittedEntropy) (entropies : List ℝ) : Bool × List ℝ :=
  match pending.command with
  | none => (true, [])
  | some none => (false, entropies)
  | some (some results) =>
    (true, (List.range pending.count).map fun i => results (UInt32.ofNat i))

namespace MetalDevice

variable (device : MetalDevice σ)

end MetalDevice

structure Addressable (packets : List QueuedPacket) : Prop where
  count : packets.length ≤ 65537
  sizes : ∀ packet ∈ packets, packet.payload.length ≤ 65535

def Addressable.batch {packets : List QueuedPacket} (addressable : Addressable packets) :
    EntropyBatch where
  payloads := packets.map fun packet => packet.payload
  count_le := by
    rw [List.length_map]
    exact addressable.count.trans (by decide)
  size_le payload member := by
    obtain ⟨packet, found, rfl⟩ := List.mem_map.mp member
    exact addressable.sizes packet found

section Answers

variable {packets : List QueuedPacket} (addressable : Addressable packets)

include addressable

theorem Addressable.total_lt : total addressable.batch.payloads < 2 ^ 32 := by
  have sizes := Packing.total_le addressable.batch.size_le
  have count : addressable.batch.payloads.length ≤ 65537 := by
    have length : addressable.batch.payloads.length = packets.length := List.length_map _
    rw [length]
    exact addressable.count
  have most : 65537 * 65535 < 2 ^ 32 := by decide
  exact (sizes.trans (Nat.mul_le_mul_right _ count)).trans_lt most

theorem Addressable.start_lt (i : Nat) (member : i < addressable.batch.payloads.length) :
    start addressable.batch.payloads i < 2 ^ 32 := by
  have ends := end_le_total member
  have whole := addressable.total_lt
  omega

theorem Addressable.executes (before : PackedBuffers) {limit : Nat} (accepts : 1 ≤ limit) :
    ∃ results, (packPayloads addressable.batch.payloads 0 0 before).Executes
      addressable.batch.payloads.length (threadgroupSize limit 256) results := by
  obtain ⟨first, begins⟩ := addressable.batch.starts before (Nat.le_of_lt addressable.total_lt)
    addressable.start_lt accepts
  obtain ⟨run, runs, rfl⟩ :=
    TransitionSystem.exists_runs (addressable.batch.dispatch (R := ℝ) limit before) first
  obtain ⟨time, -, finished⟩ := Grid.finishes runs
  exact ⟨_, run 0, run time, begins, runs.leads time, finished, rfl⟩

theorem Addressable.completed (device : MetalDevice σ) {state : σ} {before : PackedBuffers}
    {results : UInt32 → ℝ}
    (ended : (device.complete state addressable.batch.payloads.length
      (threadgroupSize device.maxTotalThreadsPerThreadgroup 256)
      (packPayloads addressable.batch.payloads 0 0 before)).2 = some results) :
    (List.range addressable.batch.payloads.length).map (fun i => results (UInt32.ofNat i)) =
      cpuEntropies packets := by
  obtain ⟨first, finish, begins, run, finished, rfl⟩ := device.executes _ _ _ _ _ ended
  obtain ⟨computed, -⟩ := addressable.batch.results_of_finished before
    (Nat.le_of_lt addressable.total_lt) addressable.start_lt device.accepts begins run finished
  apply List.ext_getElem
  · simp [cpuEntropies, Addressable.batch]
  · intro i inside also
    rw [List.getElem_map, List.getElem_range]
    have below : i < addressable.batch.payloads.length := by
      rwa [List.length_map, List.length_range] at inside
    have here := computed ⟨i, below⟩
    dsimp only at here
    rw [here]
    simp [cpuEntropies, Addressable.batch]

end Answers

end NetSentinel.Gpu
