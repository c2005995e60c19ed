import NetSentinel.Queue.Custody

namespace NetSentinel

open Family

def batchQueue {α : Type*} (ticket : Nat) (batch : List α) : List (Nat × List α) :=
  if batch = [] then [] else [(ticket, batch)]

def PopPc.carried {α : Type*} : PopPc α → List (Nat × List α)
  | .notifying ticket batch _ _ => batchQueue ticket batch
  | _ => []

def WorkerPc.carried {α : Type*} : WorkerPc α → List (Nat × List α)
  | .analyzing ticket batch => [(ticket, batch)]
  | _ => []

section Carried

variable {α : Type*}

@[simp] theorem PopPc.carried_wake (pc : PopPc α) : pc.wake.carried = pc.carried := by
  cases pc <;> rfl

theorem PopPc.carried_of_run {queue next : PacketQueue α} {ticket maxN : Nat} {timedOut : Bool}
    {pc after : PopPc α} (runs : queue.run ticket timedOut pc = some (maxN, next, after)) :
    pc.carried = [] := by
  cases pc with
  | notifying ticket batch notFull notEmpty => cases runs
  | _ => rfl

theorem WorkerPc.carried_popped (ticket : Nat) (batch : List α) :
    (WorkerPc.popped ticket batch).carried = batchQueue ticket batch := by
  cases batch <;> rfl

end Carried

namespace QueueThreads

variable {π κ σ α : Type*} [DecidableEq π] [DecidableEq κ] [DecidableEq σ] [Unique κ]

def Event.handedOut : Event π κ σ α → List (Nat × List α)
  | .popped _ ticket batch => batchQueue ticket batch
  | _ => []

variable {event : Event π κ σ α} {state after : QueueThreads π κ σ α}

theorem Step.carried (step : Step event state after) {before : List (Nat × List α)}
    (ordered : before ++ (state.pops default).carried = state.history.removals) :
    before ++ event.handedOut ++ (after.pops default).carried = after.history.removals := by
  have still {pc : PopPc α} (same : pc.carried = (state.pops default).carried) :
      before ++ [] ++ pc.carried = state.history.removals := by
    rw [List.append_nil, same]
    exact ordered
  cases step with
  | pushRun mover call packet ready =>
    have same : (logPush state.history call packet (state.queue.push call packet).2).removals =
        state.history.removals := by
      unfold logPush
      split <;> rfl
    exact (still rfl).trans same.symm
  | pushNotify mover call pops due notified => exact still (notified.keeps PopPc.carried_wake _)
  | popCall mover maxN linger outside =>
    refine still ?_
    dsimp only
    rw [update_default, at_default outside]
    rfl
  | popRun mover timedOut maxN queue pc runs =>
    have empty := PopPc.carried_of_run runs
    rw [← at_default (rfl : state.pops mover = _)] at empty
    rw [empty, List.append_nil] at ordered
    obtain ⟨wanted, outcome, -⟩ := PacketQueue.run_outcome runs
    dsimp only
    rw [update_default]
    cases outcome with
    | firstWait linger nothing running => exact still empty.symm
    | lingerWait short running => exact still empty.symm
    | take =>
      dsimp only [logPop, PopPc.taken]
      rw [FifoHistory.removals_append, ← ordered]
      exact congrArg (· ++ _) (List.append_nil before)
  | popWake mover asleep =>
    refine still ?_
    dsimp only
    rw [update_default, PopPc.carried_wake, Unique.eq_default mover]
  | popNotifyFull mover ticket batch notEmpty due =>
    refine still ?_
    dsimp only
    rw [update_default, at_default due]
    rfl
  | popNotifyEmpty mover ticket batch pops due notified =>
    refine still ?_
    dsimp only
    rw [notified.keeps PopPc.carried_wake, update_default, at_default due]
    rfl
  | popReturn mover ticket batch done =>
    rw [at_default done] at ordered
    dsimp only
    rw [update_default]
    exact (List.append_nil _).trans ordered
  | shutdownNotifyEmpty mover due => exact still (PopPc.carried_wake _)
  | _ => exact still rfl

end QueueThreads

namespace WorkerPool

variable {π κ σ α : Type*} [DecidableEq π] [DecidableEq κ] [DecidableEq σ] [Unique κ]
  {capacity batchSize : Nat} {linger : Bool} {pool after : WorkerPool π κ σ α}

/-- A worker without others gives its batches to the callback in the order in which they left the
    queue. -/
def InTurn (pool : WorkerPool π κ σ α) : Prop :=
  pool.analyzed ++ (pool.workers default).carried ++ (pool.threads.pops default).carried =
    pool.threads.history.removals

theorem InTurn.step {event : QueueThreads.Event π κ σ α} (inTurn : InTurn pool)
    (step : Step batchSize linger event pool after) : InTurn after := by
  unfold InTurn at inTurn ⊢
  cases step with
  | queue event threads outer step =>
    have moved := step.carried inTurn
    cases event with
    | popped worker ticket batch => cases outer
    | _ =>
      rw [show QueueThreads.Event.handedOut _ = [] from rfl, List.append_nil] at moved
      exact moved
  | popBatch worker threads loops step =>
    have moved := step.carried inTurn
    rw [show QueueThreads.Event.handedOut _ = [] from rfl, at_default loops] at moved
    dsimp only
    rw [update_default]
    simpa [WorkerPc.carried] using moved
  | popped worker ticket batch threads pops step =>
    have moved := step.carried inTurn
    rw [at_default pops] at moved
    dsimp only
    rw [update_default, WorkerPc.carried_popped]
    simpa [WorkerPc.carried, QueueThreads.Event.handedOut] using moved
  | analyze worker ticket batch due =>
    rw [at_default due] at inTurn
    dsimp only
    rw [update_default]
    simpa [WorkerPc.carried] using inTurn
  | count worker size due =>
    rw [at_default due] at inTurn
    dsimp only
    rw [update_default]
    exact inTurn
  | countBatch worker due =>
    rw [at_default due] at inTurn
    dsimp only
    rw [update_default]
    exact inTurn
  | check worker due =>
    rw [at_default due] at inTurn
    dsimp only
    rw [update_default]
    split <;> exact inTurn

theorem InTurn.of_reachable (reachable : (system π κ σ α capacity batchSize linger).Reachable pool) :
    InTurn pool := by
  refine TransitionSystem.Reachable.invariant ?_ ?_ reachable
  · intro first start
    unfold InTurn
    rw [start.2, show first.threads = _ from start.1]
    rfl
  · intro before after _ step inTurn
    obtain ⟨event, step⟩ := step
    exact inTurn.step step

theorem analyzed_in_turn (reachable : (system π κ σ α capacity batchSize linger).Reachable pool)
    (exited : ∀ worker, pool.workers worker = .exited) :
    pool.analyzed = pool.threads.history.removals := by
  have inTurn := InTurn.of_reachable reachable
  have outside := outside_of_working reachable default (by simp [exited default])
  unfold InTurn at inTurn
  rw [exited default, outside] at inTurn
  simpa [WorkerPc.carried, PopPc.carried] using inTurn

end WorkerPool

end NetSentinel
