import NetSentinel.Pipeline.Conservation
import NetSentinel.Queue.Notifications

namespace NetSentinel

namespace QueueThreads

variable {π κ σ α : Type*} [DecidableEq π] [DecidableEq κ] [DecidableEq σ] {batchSize : Nat}
  {event : Event π κ σ α} {state after : QueueThreads π κ σ α}

structure Uniform (batchSize : Nat) (state : QueueThreads π κ σ α) : Prop where
  asked : ∀ consumer maxN, (state.pops consumer).maxN = some maxN → maxN = batchSize
  logged : ∀ entry ∈ state.history.batches, entry.1 = batchSize

theorem Uniform.logged_step (uniform : Uniform batchSize state) (step : Step event state after) :
    ∀ entry ∈ after.history.batches, entry.1 = batchSize := by
  have logged := uniform.logged
  cases step with
  | pushRun producer call packet ready =>
    have same : (logPush state.history call packet (state.queue.push call packet).2).batches =
        state.history.batches := by
      unfold logPush
      split <;> rfl
    dsimp only
    rw [same]
    exact logged
  | popRun consumer timedOut maxN queue pc runs =>
    have size := uniform.asked consumer maxN (PopPc.maxN_of_run runs)
    obtain ⟨wanted, outcome, -⟩ := PacketQueue.run_outcome runs
    cases outcome with
    | firstWait linger empty running => exact logged
    | lingerWait short running => exact logged
    | take =>
      intro entry member
      rcases List.mem_append.mp member with before | new
      · exact logged entry before
      · rw [List.mem_singleton.mp new]
        exact size
  | _ => exact logged

theorem Uniform.step (uniform : Uniform batchSize state) (step : Step event state after)
    (sized : ∀ consumer maxN linger, event = .popBatch consumer maxN linger → maxN = batchSize) :
    Uniform batchSize after := by
  refine ⟨fun consumer maxN asks => ?_, uniform.logged_step step⟩
  rcases step.asks asks with before | ⟨linger, called⟩
  · exact uniform.asked consumer maxN before
  · exact sized consumer maxN linger called

end QueueThreads

namespace WorkerPool

variable {π κ σ α : Type*} [DecidableEq π] [DecidableEq κ] [DecidableEq σ]
  {capacity batchSize : Nat} {linger : Bool} {pool : WorkerPool π κ σ α}

theorem uniform_of_reachable (reachable : (system π κ σ α capacity batchSize linger).Reachable pool) :
    QueueThreads.Uniform batchSize pool.threads := by
  refine threads_invariant ?_ ?_ reachable
  · intro threads start
    rw [show threads = _ from start]
    exact ⟨nofun, nofun⟩
  · exact fun event threads after step sized uniform => uniform.step step sized

theorem removals_le (reachable : (system π κ σ α capacity batchSize linger).Reachable pool)
    {entry : Nat × List α} (removed : entry ∈ pool.threads.history.removals) :
    entry.2.length ≤ batchSize := by
  obtain ⟨kept, -⟩ := List.mem_filter.mp removed
  obtain ⟨logged, found, rfl⟩ := List.mem_map.mp kept
  have batches := List.fst_mem_of_mem_zipIdx found
  have size := (uniform_of_reachable reachable).logged logged.1 batches
  have ordered := FifoState.Ordered.of_reachable
    (QueueThreads.fifo_reachable (threads_reachable reachable))
  rw [← size]
  exact ordered.sized logged.1 batches

end WorkerPool

namespace Pipeline

variable {ω : Type*} [DecidableEq ω] {config : PipelineConfig} {pipeline : Pipeline ω}

end Pipeline

end NetSentinel
