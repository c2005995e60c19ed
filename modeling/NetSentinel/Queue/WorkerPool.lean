import NetSentinel.Queue.Fifo

namespace NetSentinel

/-- Where a worker is in `worker_loop`: at the top of the loop, in `pop_batch`, or with the batch
    that `pop_batch` returned. -/
inductive WorkerPc (α : Type*) where
  | looping
  | popping
  | analyzing (ticket : Nat) (batch : List α)
  | counting (size : Nat)
  | countingBatch
  | checking
  | exited

/-- The workers, the queue they drain, the batches handed to the analysis callback in the order of
    the calls, and the counters. -/
structure WorkerPool (π κ σ α : Type*) where
  threads : QueueThreads π κ σ α
  workers : κ → WorkerPc α
  analyzed : List (Nat × List α)
  processed : UInt64
  batches : UInt64

def WorkerPc.popped {α : Type*} (ticket : Nat) : List α → WorkerPc α
  | [] => .checking
  | packet :: batch => .analyzing ticket (packet :: batch)

def QueueThreads.Event.consuming {π κ σ α : Type*} : Event π κ σ α → Bool
  | .popBatch _ _ _ => true
  | .popped _ _ _ => true
  | _ => false

namespace WorkerPool

variable {π κ σ α : Type*} [DecidableEq π] [DecidableEq κ] [DecidableEq σ]

inductive Step (batchSize : Nat) (linger : Bool) :
    QueueThreads.Event π κ σ α → WorkerPool π κ σ α → WorkerPool π κ σ α → Prop
  | queue {pool : WorkerPool π κ σ α} (event : QueueThreads.Event π κ σ α)
      (threads : QueueThreads π κ σ α) (outer : event.consuming = false)
      (step : QueueThreads.Step event pool.threads threads) :
      Step batchSize linger event pool { pool with threads }
  | popBatch {pool : WorkerPool π κ σ α} (worker : κ) (threads : QueueThreads π κ σ α)
      (loops : pool.workers worker = .looping)
      (step : QueueThreads.Step (.popBatch worker batchSize linger) pool.threads threads) :
      Step batchSize linger .inside pool
        { pool with threads, workers := Function.update pool.workers worker .popping }
  | popped {pool : WorkerPool π κ σ α} (worker : κ) (ticket : Nat) (batch : List α)
      (threads : QueueThreads π κ σ α) (pops : pool.workers worker = .popping)
      (step : QueueThreads.Step (.popped worker ticket batch) pool.threads threads) :
      Step batchSize linger .inside pool
        { pool with threads, workers := Function.update pool.workers worker (.popped ticket batch) }
  | analyze {pool : WorkerPool π κ σ α} (worker : κ) (ticket : Nat) (batch : List α)
      (due : pool.workers worker = .analyzing ticket batch) :
      Step batchSize linger .inside pool
        { pool with
          workers := Function.update pool.workers worker (.counting batch.length)
          analyzed := pool.analyzed ++ [(ticket, batch)] }
  | count {pool : WorkerPool π κ σ α} (worker : κ) (size : Nat)
      (due : pool.workers worker = .counting size) :
      Step batchSize linger .inside pool
        { pool with
          workers := Function.update pool.workers worker .countingBatch
          processed := pool.processed + UInt64.ofNat size }
  | countBatch {pool : WorkerPool π κ σ α} (worker : κ)
      (due : pool.workers worker = .countingBatch) :
      Step batchSize linger .inside pool
        { pool with
          workers := Function.update pool.workers worker .looping
          batches := pool.batches + 1 }
  | check {pool : WorkerPool π κ σ α} (worker : κ) (due : pool.workers worker = .checking) :
      Step batchSize linger .inside pool
        { pool with
          workers := Function.update pool.workers worker
            (if pool.threads.queue.isFinished then .exited else .looping) }

def system (π κ σ α : Type*) [DecidableEq π] [DecidableEq κ] [DecidableEq σ]
    (capacity batchSize : Nat) (linger : Bool) : TransitionSystem (WorkerPool π κ σ α) where
  start pool := (QueueThreads.system π κ σ α capacity).start pool.threads ∧
    pool = ⟨pool.threads, fun _ => .looping, [], 0, 0⟩
  step pool after := ∃ event, Step batchSize linger event pool after

/-- A step of the pool is a step of the threads, in which only workers call `pop_batch` and with
    the batch size of the pool, or does not touch the queue. -/
theorem Step.threads {batchSize : Nat} {linger : Bool} {event : QueueThreads.Event π κ σ α}
    {pool after : WorkerPool π κ σ α} (step : Step batchSize linger event pool after) :
    (∃ inner, QueueThreads.Step inner pool.threads after.threads ∧
      (inner = event ∨ event = .inside ∧ inner.consuming) ∧
      ∀ worker maxN lingers, inner = .popBatch worker maxN lingers → maxN = batchSize) ∨
    event = .inside ∧ after.threads = pool.threads := by
  cases step with
  | queue event threads outer step =>
    refine .inl ⟨event, step, .inl rfl, fun worker maxN lingers same => ?_⟩
    rw [same] at outer
    cases outer
  | popBatch worker threads loops step =>
    refine .inl ⟨_, step, .inr ⟨rfl, rfl⟩, fun other maxN lingers same => ?_⟩
    cases same
    rfl
  | popped worker ticket batch threads pops step =>
    exact .inl ⟨_, step, .inr ⟨rfl, rfl⟩, fun other maxN lingers same => nomatch same⟩
  | analyze => exact .inr ⟨rfl, rfl⟩
  | count => exact .inr ⟨rfl, rfl⟩
  | countBatch => exact .inr ⟨rfl, rfl⟩
  | check => exact .inr ⟨rfl, rfl⟩

section Frame

variable {batchSize : Nat} {linger : Bool} {event : QueueThreads.Event π κ σ α}
  {pool after : WorkerPool π κ σ α}

theorem Step.pushes_outside (step : Step batchSize linger event pool after) {producer : π}
    (outside : pool.threads.pushes producer = .outside) :
    after.threads.pushes producer = .outside ∨ ∃ packet, event = .push producer packet := by
  rcases step.threads with ⟨inner, moved, same | ⟨-, consuming⟩, -⟩ | ⟨-, same⟩
  · rw [← same]
    exact moved.pushes_outside outside
  · rcases moved.pushes_outside outside with still | ⟨packet, called⟩
    · exact .inl still
    · rw [called] at consuming
      cases consuming
  · rw [same]
    exact .inl outside

theorem Step.shutdowns_outside (step : Step batchSize linger event pool after) {closer : σ}
    (outside : pool.threads.shutdowns closer = .outside) :
    after.threads.shutdowns closer = .outside ∨ event = .shutdown closer := by
  rcases step.threads with ⟨inner, moved, same | ⟨-, consuming⟩, -⟩ | ⟨-, same⟩
  · rw [← same]
    exact moved.shutdowns_outside outside
  · rcases moved.shutdowns_outside outside with still | called
    · exact .inl still
    · rw [called] at consuming
      cases consuming
  · rw [same]
    exact .inl outside

theorem Step.calls (step : Step batchSize linger event pool after) :
    after.threads.history.calls = pool.threads.history.calls ++ event.called := by
  rcases step.threads with ⟨inner, moved, same | ⟨quiet, consuming⟩, -⟩ | ⟨quiet, same⟩
  · rw [← same]
    exact moved.calls
  · have called : inner.called = [] := by
      cases inner with
      | push producer packet => cases consuming
      | _ => rfl
    rw [moved.calls, called, quiet]
    rfl
  · rw [same, quiet]
    exact (List.append_nil _).symm

theorem Step.stays_open (step : Step batchSize linger event pool after)
    (running : pool.threads.queue.shutdown = false)
    (outside : ∀ closer, pool.threads.shutdowns closer = .outside) :
    after.threads.queue.shutdown = false := by
  rw [← Bool.not_eq_true] at running ⊢
  intro closed
  rcases step.threads with ⟨inner, moved, -, -⟩ | ⟨-, same⟩
  · rcases moved.shutdown_by closed with before | ⟨closer, entering, -⟩
    · exact running before
    · rw [outside closer] at entering
      cases entering
  · rw [same] at closed
    exact running closed

end Frame

variable {capacity batchSize : Nat} {linger : Bool} {pool : WorkerPool π κ σ α}

theorem threads_reachable (reachable : (system π κ σ α capacity batchSize linger).Reachable pool) :
    (QueueThreads.system π κ σ α capacity).Reachable pool.threads := by
  refine reachable.map ?_ ?_
  · exact fun first start => start.1
  · intro before after _ step
    obtain ⟨event, step⟩ := step
    rcases step.threads with ⟨inner, moved, -, -⟩ | ⟨-, same⟩
    · exact .inl ⟨inner, moved⟩
    · exact .inr same

theorem threads_invariant {P : QueueThreads π κ σ α → Prop}
    (start : ∀ threads, (QueueThreads.system π κ σ α capacity).start threads → P threads)
    (step : ∀ event threads after, QueueThreads.Step event threads after →
      (∀ worker maxN lingers, event = .popBatch worker maxN lingers → maxN = batchSize) →
        P threads → P after)
    (reachable : (system π κ σ α capacity batchSize linger).Reachable pool) : P pool.threads := by
  refine TransitionSystem.Reachable.invariant (P := fun pool => P pool.threads) ?_ ?_ reachable
  · exact fun first begins => start first.threads begins.1
  · intro before after _ moves holds
    obtain ⟨event, moves⟩ := moves
    rcases moves.threads with ⟨inner, moved, -, sized⟩ | ⟨-, same⟩
    · exact step inner before.threads after.threads moved sized holds
    · rw [same]
      exact holds

theorem exited_finished (reachable : (system π κ σ α capacity batchSize linger).Reachable pool)
    (worker : κ) (exited : pool.workers worker = .exited) : pool.threads.queue.isFinished := by
  revert worker
  refine TransitionSystem.Reachable.invariant (P := fun pool =>
    ∀ worker, pool.workers worker = .exited → pool.threads.queue.isFinished) ?_ ?_ reachable
  · intro first start worker exited
    rw [start.2] at exited
    cases exited
  · intro before after earlier moves finished worker exited
    obtain ⟨event, step⟩ := moves
    have keeps : ∀ {inner : QueueThreads.Event π κ σ α} {threads : QueueThreads π κ σ α},
        QueueThreads.Step inner before.threads threads → before.workers worker = .exited →
          threads.queue.isFinished := by
      intro inner threads moved gone
      have leads : (QueueThreads.system π κ σ α capacity).Leads before.threads threads :=
        Relation.ReflTransGen.single ⟨inner, moved⟩
      exact (QueueThreads.ShutdownDrains.of_leads leads).finished (finished worker gone)
    have other : ∀ {mover : κ} {pc : WorkerPc α}, pc ≠ .exited →
        Function.update before.workers mover pc worker = .exited →
          before.workers worker = .exited := by
      intro mover pc stays gone
      by_cases same : worker = mover
      · subst same
        rw [Function.update_self] at gone
        exact absurd gone stays
      · rwa [Function.update_of_ne same] at gone
    cases step with
    | queue event threads outer moved => exact keeps moved exited
    | popBatch mover threads loops moved => exact keeps moved (other (by simp) exited)
    | popped mover ticket batch threads pops moved =>
      refine keeps moved (other ?_ exited)
      cases batch <;> simp [WorkerPc.popped]
    | analyze mover ticket batch due => exact finished worker (other (by simp) exited)
    | count mover size due => exact finished worker (other (by simp) exited)
    | countBatch mover due => exact finished worker (other (by simp) exited)
    | check mover due =>
      by_cases done : before.threads.queue.isFinished
      · exact done
      · rw [if_neg done] at exited
        exact finished worker (other (by simp) exited)

end WorkerPool

end NetSentinel
