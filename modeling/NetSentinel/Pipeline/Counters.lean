import NetSentinel.Pipeline.Conservation

namespace NetSentinel

def WorkerPc.uncountedBatches {α : Type*} : WorkerPc α → Nat
  | .counting _ => 1
  | .countingBatch => 1
  | _ => 0

theorem WorkerPc.uncountedBatches_popped {α : Type*} (ticket : Nat) (batch : List α) :
    (WorkerPc.popped ticket batch).uncountedBatches = 0 := by
  cases batch <;> rfl

namespace WorkerPool

open Family

variable {π κ σ α : Type*} [DecidableEq π] [DecidableEq κ] [DecidableEq σ]
variable {capacity batchSize : Nat} {linger : Bool} {pool after : WorkerPool π κ σ α}

theorem exited_stays {event : QueueThreads.Event π κ σ α} {worker : κ}
    (exited : pool.workers worker = .exited) (step : Step batchSize linger event pool after) :
    after.workers worker = .exited := by
  cases step with
  | queue event threads outer step => exact exited
  | popBatch mover threads loops step => exact update_stays exited (by simp [loops])
  | popped mover ticket batch threads pops step => exact update_stays exited (by simp [pops])
  | analyze mover ticket batch due => exact update_stays exited (by simp [due])
  | count mover size due => exact update_stays exited (by simp [due])
  | countBatch mover due => exact update_stays exited (by simp [due])
  | check mover due => exact update_stays exited (by simp [due])

variable [Fintype κ]

def BatchesCounted (pool : WorkerPool π κ σ α) : Prop :=
  ∃ counted, pool.batches = UInt64.ofNat counted ∧
    counted + ∑ worker, (pool.workers worker).uncountedBatches = pool.analyzed.length

theorem BatchesCounted.step {event : QueueThreads.Event π κ σ α}
    (batches : BatchesCounted pool) (step : Step batchSize linger event pool after) :
    BatchesCounted after := by
  obtain ⟨counted, stored, total⟩ := batches
  have still : ∀ {mover : κ} {pc : WorkerPc α},
      pc.uncountedBatches = (pool.workers mover).uncountedBatches →
      counted + ∑ worker, (Function.update pool.workers mover pc worker).uncountedBatches =
        pool.analyzed.length := by
    intro mover pc same
    rw [sum_update_same WorkerPc.uncountedBatches pool.workers same]
    exact total
  cases step with
  | queue event threads outer step => exact ⟨counted, stored, total⟩
  | popBatch worker threads loops step => exact ⟨counted, stored, still (by rw [loops]; rfl)⟩
  | popped worker ticket batch threads pops step =>
    exact ⟨counted, stored, still (by rw [pops, WorkerPc.uncountedBatches_popped]; rfl)⟩
  | analyze worker ticket batch due =>
    have moved := sum_update WorkerPc.uncountedBatches pool.workers worker (.counting batch.length)
    rw [due] at moved
    refine ⟨counted, stored, ?_⟩
    simp only [WorkerPc.uncountedBatches, List.length_append, List.length_singleton] at moved ⊢
    simp only [WorkerPc.uncountedBatches] at total
    omega
  | count worker size due => exact ⟨counted, stored, still (by rw [due]; rfl)⟩
  | countBatch worker due =>
    have moved := sum_update WorkerPc.uncountedBatches pool.workers worker .looping
    rw [due] at moved
    refine ⟨counted + 1, ?_, ?_⟩
    · dsimp only
      rw [stored, UInt64.ofNat_add]
      rfl
    · simp only [WorkerPc.uncountedBatches] at moved total ⊢
      omega
  | check worker due => exact ⟨counted, stored, still (by rw [due]; split <;> rfl)⟩

theorem BatchesCounted.of_reachable
    (reachable : (system π κ σ α capacity batchSize linger).Reachable pool) :
    BatchesCounted pool := by
  refine TransitionSystem.Reachable.invariant ?_ ?_ reachable
  · intro first starts
    rw [starts.2]
    exact ⟨0, rfl, by simp [WorkerPc.uncountedBatches]⟩
  · intro before after _ moves counted
    obtain ⟨event, step⟩ := moves
    exact counted.step step

theorem analyzed_le_taken
    (reachable : (system π κ σ α capacity batchSize linger).Reachable pool) :
    (pool.analyzed.map fun entry => entry.2.length).sum ≤ pool.threads.history.taken.length ∧
      pool.analyzed.length ≤ (pool.analyzed.map fun entry => entry.2.length).sum := by
  have placed := (Custody.of_reachable reachable).placed
  constructor
  · have sizes := congrArg (fun entries => (entries.map fun entry => entry.2.length).sum) placed
    simp only [Multiset.map_add, Multiset.sum_add, Multiset.map_coe, Multiset.sum_coe] at sizes
    have length := congrArg List.length (FifoHistory.removals_flatten pool.threads.history)
    rw [List.length_flatten, List.map_map] at length
    rw [← length]
    exact (Nat.le_add_left _ _).trans_eq sizes
  · have nonempty : ∀ entry ∈ pool.analyzed, 1 ≤ entry.2.length := by
      intro entry member
      have removed : entry ∈ (pool.threads.history.removals : Multiset (Nat × List α)) := by
        rw [← placed]
        exact Multiset.mem_add.mpr (.inr (Multiset.mem_coe.mpr member))
      exact FifoHistory.removals_nonempty _ (Multiset.mem_coe.mp removed)
    have least : ∀ size ∈ pool.analyzed.map fun entry => entry.2.length, 1 ≤ size := by
      rintro size measured
      obtain ⟨entry, member, rfl⟩ := List.mem_map.mp measured
      exact nonempty entry member
    have most := List.length_le_sum_of_one_le _ least
    rwa [List.length_map] at most

/-- Neither counter has wrapped around: all that is missing is what workers are about to add. -/
structure CountersExact (pool : WorkerPool π κ σ α) : Prop where
  processed : pool.processed.toNat + ∑ worker, (pool.workers worker).uncounted =
    (pool.analyzed.map fun entry => entry.2.length).sum
  batches : pool.batches.toNat + ∑ worker, (pool.workers worker).uncountedBatches =
    pool.analyzed.length

theorem CountersExact.of_few
    (reachable : (system π κ σ α capacity batchSize linger).Reachable pool)
    (few : pool.threads.history.taken.length < 2 ^ 64) : CountersExact pool := by
  obtain ⟨packets, nonempty⟩ := analyzed_le_taken reachable
  obtain ⟨counted, processed, total⟩ := (Custody.of_reachable reachable).counted
  obtain ⟨countedBatches, batches, totalBatches⟩ := BatchesCounted.of_reachable reachable
  constructor
  · have fits : counted < 2 ^ 64 := by omega
    rw [processed, UInt64.toNat_ofNat_of_lt' fits, total]
  · have fits : countedBatches < 2 ^ 64 := by omega
    rw [batches, UInt64.toNat_ofNat_of_lt' fits, totalBatches]

end WorkerPool

namespace Capture

variable {selectable : Bool} {maxPackets : Int32} {parse : Frame → Option ParsedPacket}
variable {capture after : Capture}

/-- What `delivered` stands for, which its 32 bits need not hold. -/
def Tallied (parse : Frame → Option ParsedPacket) (capture : Capture) : Prop :=
  ∃ counted, capture.delivered = Int32.ofNat counted ∧
    counted + capture.pc.inFlight = (accepted parse capture.frames).length

theorem Tallied.step {event : Event} (tallied : Tallied parse capture)
    (fresh : capture.pc = .starting → capture.frames = [])
    (step : Step selectable maxPackets parse event capture after) : Tallied parse after := by
  obtain ⟨counted, stored, total⟩ := tallied
  by_cases starting : capture.pc = .starting
  · have none : accepted parse capture.frames = [] := by
      rw [fresh starting]
      rfl
    rw [step.of_starting starting]
    exact ⟨0, rfl, (congrArg List.length none).symm⟩
  · rcases step.tally starting with ⟨same, more, flight, taken⟩ | ⟨counting, rfl⟩
    · refine ⟨counted, same.trans stored, ?_⟩
      omega
    · rw [counting] at total
      refine ⟨counted + 1, ?_, total⟩
      dsimp only
      rw [stored, Int32.ofNat_add]
      rfl

end Capture

def CapturePc.uncounted : CapturePc → Nat
  | .inHandler => 1
  | .counting => 1
  | _ => 0

theorem CapturePc.inFlight_eq (pc : CapturePc) : pc.inFlight = pc.pending.length + pc.uncounted := by
  cases pc <;> rfl

namespace Pipeline

variable {ω : Type*} [DecidableEq ω] {config : PipelineConfig} {pipeline : Pipeline ω}

def invocations (pipeline : Pipeline ω) : Nat := pipeline.pool.threads.history.calls.length

def packets (config : PipelineConfig) (pipeline : Pipeline ω) : Nat :=
  (Capture.accepted config.parse pipeline.capture.frames).length

structure CountsAgree [Fintype ω] (pipeline : Pipeline ω) : Prop where
  delivered : pipeline.capture.delivered.toInt + pipeline.capture.pc.uncounted =
    pipeline.invocations
  pool : pipeline.pool.CountersExact
  returned : pipeline.capture.pc = .returned →
    pipeline.capture.delivered.toInt = pipeline.invocations
  finished : pipeline.main = .finished →
    pipeline.capture.delivered.toInt = pipeline.pool.processed.toNat

theorem tallied_of_reachable (reachable : (system ω config).Reachable pipeline) :
    Capture.Tallied config.parse pipeline.capture := by
  refine TransitionSystem.Reachable.invariant (P := fun pipeline =>
    Capture.Tallied config.parse pipeline.capture) ?_ ?_ reachable
  · intro first start
    rw [start.1]
    exact ⟨0, rfl, rfl⟩
  · intro before after earlier step tallied
    have fresh := (counted_of_reachable earlier).fresh
    cases step with
    | capture capture step => exact tallied.step fresh step
    | handle frame parsed capture pool handles pushes => exact tallied.step fresh handles
    | handled result capture pool handled pushed => exact tallied.step fresh handled
    | _ => exact tallied

theorem invocations_add_pending (reachable : (system ω config).Reachable pipeline) :
    pipeline.invocations + pipeline.capture.pc.pending.length = packets config pipeline := by
  have sent := congrArg List.length (Conserved.of_reachable reachable).sent
  rwa [List.length_append] at sent

theorem taken_le_packets (reachable : (system ω config).Reachable pipeline) :
    pipeline.pool.threads.history.taken.length ≤ packets config pipeline := by
  have sent := (Conserved.of_reachable reachable).ordered
  have order := congrArg List.length
    (FifoState.Ordered.of_reachable (fifo_reachable reachable)).conserved
  have calls := invocations_add_pending reachable
  have enqueued : pipeline.pool.threads.history.enqueuedItems.length ≤ pipeline.invocations := by
    rw [invocations]
    by_cases pushing : ∃ call item,
        pipeline.pool.threads.fifo.calls () = some (call, .inl item)
    · obtain ⟨call, item, entered⟩ := pushing
      have called := congrArg List.length (sent.open_call call item entered)
      rw [List.length_append] at called
      exact (Nat.le_add_right _ _).trans_eq called.symm
    · have settled := sent.no_call fun call item entered => pushing ⟨call, item, entered⟩
      exact (congrArg List.length settled).ge
  rw [List.length_append] at order
  have order : pipeline.pool.threads.history.enqueuedItems.length =
    pipeline.pool.threads.history.taken.length + _ := order
  omega

theorem exited_of_finished (reachable : (system ω config).Reachable pipeline)
    (finished : pipeline.main = .finished) :
    ∀ worker, pipeline.pool.workers worker = .exited := by
  revert finished
  refine TransitionSystem.Reachable.invariant (P := fun pipeline => pipeline.main = .finished →
    ∀ worker, pipeline.pool.workers worker = .exited) ?_ ?_ reachable
  · intro first start finished
    rw [start.2.1] at finished
    cases finished
  · intro before after _ step exited finished worker
    cases step with
    | pool pool step => exact WorkerPool.exited_stays (exited finished worker) step
    | handle frame parsed capture pool handles pushes =>
      exact WorkerPool.exited_stays (exited finished worker) pushes
    | handled result capture pool handled pushed =>
      exact WorkerPool.exited_stays (exited finished worker) pushed
    | capture capture step => exact exited finished worker
    | requestStop => exact exited finished worker
    | joinWorkers joining exited => exact exited worker
    | _ => cases finished

theorem toInt_ofNat_iff (n : Nat) : (Int32.ofNat n).toInt = n ↔ n < 2 ^ 31 := by
  constructor
  · intro exact
    have most := (Int32.ofNat n).toInt_lt
    omega
  · intro small
    exact Int32.toInt_ofNat_of_lt small

theorem delivered_of_few (reachable : (system ω config).Reachable pipeline)
    (few : packets config pipeline < 2 ^ 31) :
    pipeline.capture.delivered.toInt + pipeline.capture.pc.uncounted = pipeline.invocations := by
  obtain ⟨counted, stored, total⟩ := tallied_of_reachable reachable
  have calls := invocations_add_pending reachable
  have total : counted + pipeline.capture.pc.inFlight = packets config pipeline := total
  have small : counted < 2 ^ 31 := by omega
  rw [CapturePc.inFlight_eq] at total
  rw [stored, (toInt_ofNat_iff counted).mpr small]
  omega

theorem at_return (reachable : (system ω config).Reachable pipeline)
    (returned : pipeline.capture.pc = .returned) :
    pipeline.invocations = packets config pipeline ∧
      pipeline.capture.delivered = Int32.ofNat (packets config pipeline) := by
  have calls := invocations_add_pending reachable
  obtain ⟨counted, stored, total⟩ := tallied_of_reachable reachable
  rw [returned] at calls total
  refine ⟨calls, stored.trans ?_⟩
  exact congrArg Int32.ofNat total

theorem returned_iff (reachable : (system ω config).Reachable pipeline)
    (returned : pipeline.capture.pc = .returned) :
    pipeline.capture.delivered.toInt = pipeline.invocations ↔ packets config pipeline < 2 ^ 31 := by
  obtain ⟨calls, delivered⟩ := at_return reachable returned
  rw [calls, delivered]
  exact toInt_ofNat_iff _

theorem finished_iff [Fintype ω] [Nonempty ω] (reachable : (system ω config).Reachable pipeline)
    (few : packets config pipeline < 2 ^ 64) (finished : pipeline.main = .finished) :
    pipeline.capture.delivered.toInt = pipeline.pool.processed.toNat ↔
      packets config pipeline < 2 ^ 31 := by
  have returned := (Joined.of_reachable reachable).late (by simp [finished])
  have processed := processed_of_exited reachable (exited_of_finished reachable finished)
  obtain ⟨-, delivered⟩ := at_return reachable returned
  rw [processed, delivered]
  have exact : (Capture.accepted config.parse pipeline.capture.frames).length % 2 ^ 64 =
    packets config pipeline := Nat.mod_eq_of_lt few
  rw [exact]
  exact toInt_ofNat_iff _

theorem packets_lt_of_limit (reachable : (system ω config).Reachable pipeline)
    (positive : 0 < config.maxPackets) : packets config pipeline < 2 ^ 31 := by
  have within := (counted_of_reachable reachable).within_limit positive
  have most := config.maxPackets.toInt_lt
  rw [packets]
  omega

/-- `run` returns the number of packets, and this is `processed_count()` in the end, exactly if they
    are fewer than 2^31. A limit sees to that; the counters of the pool hold any number below
    2^64. -/
theorem counts_agree_iff [Fintype ω] [Nonempty ω] (reachable : (system ω config).Reachable pipeline)
    (few : packets config pipeline < 2 ^ 64) :
    pipeline.pool.CountersExact ∧
    (packets config pipeline < 2 ^ 31 → CountsAgree pipeline) ∧
    (pipeline.capture.pc = .returned →
      (pipeline.capture.delivered.toInt = pipeline.invocations ↔
        packets config pipeline < 2 ^ 31)) ∧
    (pipeline.main = .finished →
      (pipeline.capture.delivered.toInt = pipeline.pool.processed.toNat ↔
        packets config pipeline < 2 ^ 31)) ∧
    (0 < config.maxPackets → packets config pipeline < 2 ^ 31) := by
  have pool : pipeline.pool.CountersExact :=
    WorkerPool.CountersExact.of_few (pool_reachable reachable)
      ((taken_le_packets reachable).trans_lt few)
  refine ⟨pool, fun small => ?_, returned_iff reachable, finished_iff reachable few,
    packets_lt_of_limit reachable⟩
  constructor
  · exact delivered_of_few reachable small
  · exact pool
  · exact fun returned => (returned_iff reachable returned).mpr small
  · exact fun finished => (finished_iff reachable few finished).mpr small

theorem counts_agree_for_one_packet : ∃ pipeline : Pipeline Unit,
    pipeline.main = .finished ∧ packets smallConfig pipeline = 1 ∧ CountsAgree pipeline := by
  obtain ⟨pipeline, reachable, -, length, finished⟩ := run_of_length 1
  have one : packets smallConfig pipeline = 1 := length
  have agree := counts_agree_iff reachable (by rw [one]; decide)
  exact ⟨pipeline, finished, one, agree.2.1 (by rw [one]; decide)⟩

/-- Without a limit `delivered` passes the greatest `int`; the pool has counted on. -/
theorem delivered_overflows : ∃ pipeline : Pipeline Unit,
    (system Unit smallConfig).Reachable pipeline ∧ pipeline.main = .finished ∧
      smallConfig.maxPackets = 0 ∧ pipeline.invocations = 2 ^ 31 ∧
        pipeline.pool.processed.toNat = 2 ^ 31 ∧
          pipeline.capture.delivered.toInt = -2 ^ 31 := by
  obtain ⟨pipeline, reachable, exited, length, finished⟩ := run_of_length (2 ^ 31)
  have returned := (Joined.of_reachable reachable).late (by simp [finished])
  obtain ⟨calls, delivered⟩ := at_return reachable returned
  have many : packets smallConfig pipeline = 2 ^ 31 := length
  refine ⟨pipeline, reachable, finished, rfl, calls.trans many, ?_, ?_⟩
  · rw [processed_of_exited reachable exited, length]
    decide
  · rw [delivered, many]
    decide

end Pipeline

end NetSentinel
