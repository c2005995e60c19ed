import NetSentinel.Queue.WorkerPool

namespace NetSentinel

open Family

theorem placed_of_moved {β : Type*} {before after held out analyzed removed removals : Multiset β}
    (moved : after + out + removed = before + removals) (placed : before + held + analyzed = removed) :
    after + (held + out) + analyzed = removals := by
  have total : after + (held + out) + analyzed + removed = removals + removed :=
    calc after + (held + out) + analyzed + removed
        = (after + out + removed) + (held + analyzed) := by abel
      _ = (before + removals) + (held + analyzed) := by rw [moved]
      _ = removals + (before + held + analyzed) := by abel
      _ = removals + removed := by rw [placed]
  exact add_right_cancel total

def batchTokens {α : Type*} (ticket : Nat) : List α → Multiset (Nat × List α)
  | [] => 0
  | packet :: batch => {(ticket, packet :: batch)}

def PopPc.tokens {α : Type*} : PopPc α → Multiset (Nat × List α)
  | .notifying ticket batch _ _ => batchTokens ticket batch
  | _ => 0

def WorkerPc.tokens {α : Type*} : WorkerPc α → Multiset (Nat × List α)
  | .analyzing ticket batch => {(ticket, batch)}
  | _ => 0

def WorkerPc.uncounted {α : Type*} : WorkerPc α → Nat
  | .counting size => size
  | _ => 0

section Tokens

variable {α : Type*}

@[simp] theorem PopPc.tokens_wake (pc : PopPc α) : pc.wake.tokens = pc.tokens := by
  cases pc <;> rfl

theorem PopPc.tokens_of_run {queue next : PacketQueue α} {ticket maxN : Nat} {timedOut : Bool}
    {pc after : PopPc α} (runs : queue.run ticket timedOut pc = some (maxN, next, after)) :
    pc.tokens = 0 := by
  cases pc with
  | notifying ticket batch notFull notEmpty => cases runs
  | _ => rfl

theorem WorkerPc.tokens_popped (ticket : Nat) (batch : List α) :
    (WorkerPc.popped ticket batch).tokens = batchTokens ticket batch := by
  cases batch <;> rfl

theorem WorkerPc.uncounted_popped (ticket : Nat) (batch : List α) :
    (WorkerPc.popped ticket batch).uncounted = 0 := by
  cases batch <;> rfl

theorem removals_take (history : FifoHistory α) (limit : Nat) (batch : List α) :
    (FifoHistory.removals { history with batches := history.batches ++ [(limit, batch)] } :
      Multiset (Nat × List α)) = history.removals + batchTokens history.batches.length batch := by
  rw [FifoHistory.removals_append]
  cases batch with
  | nil => simp [batchTokens]
  | cons packet batch => exact (Multiset.coe_add _ _).symm

end Tokens

namespace QueueThreads

variable {π κ σ α : Type*}

def Event.returned : Event π κ σ α → Multiset (Nat × List α)
  | .popped _ ticket batch => batchTokens ticket batch
  | _ => 0

variable [DecidableEq π] [DecidableEq κ] [DecidableEq σ]
variable {event : Event π κ σ α} {state after : QueueThreads π κ σ α}

theorem Step.tokens [Fintype κ] (step : Step event state after) :
    (∑ consumer, (after.pops consumer).tokens) + event.returned + state.history.removals =
      (∑ consumer, (state.pops consumer).tokens) + after.history.removals := by
  have still : ∀ {mover : κ} {pc : PopPc α}, pc.tokens = (state.pops mover).tokens →
      (∑ consumer, (Function.update state.pops mover pc consumer).tokens) + 0 +
        state.history.removals =
          (∑ consumer, (state.pops consumer).tokens) + state.history.removals := by
    intro mover pc same
    rw [sum_update_same PopPc.tokens state.pops same, add_zero]
  have woken : ∀ {base pops : κ → PopPc α}, NotifyOne base pops →
      (∑ consumer, (pops consumer).tokens) = ∑ consumer, (base consumer).tokens :=
    fun notified => Finset.sum_congr rfl fun consumer _ =>
      notified.keeps PopPc.tokens_wake consumer
  cases step with
  | pushRun mover call packet ready =>
    have same : (logPush state.history call packet (state.queue.push call packet).2).removals =
        state.history.removals := by
      unfold logPush
      split <;> rfl
    show _ + 0 + _ = _
    rw [same, add_zero]
  | pushNotify mover call pops due notified =>
    show _ + 0 + _ = _
    rw [woken notified, add_zero]
  | popCall mover maxN linger outside => exact still (by rw [outside]; rfl)
  | popRun mover timedOut maxN queue pc runs =>
    have before := PopPc.tokens_of_run runs
    obtain ⟨wanted, outcome, -⟩ := PacketQueue.run_outcome runs
    cases outcome with
    | firstWait linger empty running => exact still before.symm
    | lingerWait short running => exact still before.symm
    | take =>
      have moved := sum_update PopPc.tokens state.pops mover
        (.notifying state.history.batches.length (state.queue.items.take maxN)
          (decide (state.queue.items.take maxN ≠ [])) (decide (state.queue.items.drop maxN ≠ [])))
      rw [before, add_zero] at moved
      have taken := removals_take state.history maxN (state.queue.items.take maxN)
      show _ + 0 + _ = _ + _
      rw [add_zero, moved]
      dsimp only [logPop, PopPc.taken, PopPc.tokens]
      rw [taken, add_assoc, add_comm (batchTokens _ _)]
  | popWake mover asleep => exact still (PopPc.tokens_wake _)
  | popNotifyFull mover ticket batch notEmpty due => exact still (by rw [due]; rfl)
  | popNotifyEmpty mover ticket batch pops due notified =>
    show _ + 0 + _ = _
    rw [woken notified]
    exact still (by rw [due]; rfl)
  | popReturn mover ticket batch done =>
    have moved := sum_update PopPc.tokens state.pops mover .outside
    rw [done] at moved
    exact congrArg₂ _ (moved.trans (add_zero _)) rfl
  | shutdownNotifyEmpty mover due =>
    show _ + 0 + _ = _
    simp only [PopPc.tokens_wake, add_zero]
  | _ => exact congrArg₂ _ (add_zero _) rfl

end QueueThreads

namespace WorkerPool

variable {π κ σ α : Type*} [DecidableEq π] [DecidableEq κ] [DecidableEq σ]
variable {capacity batchSize : Nat} {linger : Bool}

theorem outside_of_working {pool : WorkerPool π κ σ α}
    (reachable : (system π κ σ α capacity batchSize linger).Reachable pool) :
    ∀ worker, pool.workers worker ≠ .popping → pool.threads.pops worker = .outside := by
  refine TransitionSystem.Reachable.invariant (P := fun pool =>
    ∀ worker, pool.workers worker ≠ .popping → pool.threads.pops worker = .outside) ?_ ?_ reachable
  · intro first start worker _
    rw [show first.threads = _ from start.1]
  · intro before after _ moves outside worker works
    obtain ⟨event, step⟩ := moves
    have kept : ∀ {mover : κ} {pc : WorkerPc α}, before.workers mover ≠ .popping →
        Function.update before.workers mover pc worker ≠ .popping →
          before.threads.pops worker = .outside := by
      intro mover pc busy now
      by_cases same : worker = mover
      · subst same
        exact outside worker busy
      · rw [Function.update_of_ne same] at now
        exact outside worker now
    cases step with
    | queue event threads outer step =>
      rcases step.pops_outside (outside worker works) with still | ⟨maxN, lingers, called⟩
      · exact still
      · rw [called] at outer
        cases outer
    | popBatch mover threads loops step =>
      have apart : worker ≠ mover := by
        intro same
        rw [same] at works
        exact works (Function.update_self mover _ _)
      dsimp only at works
      rw [Function.update_of_ne apart] at works
      rcases step.pops_outside (outside worker works) with still | ⟨maxN, lingers, called⟩
      · exact still
      · cases called
        exact absurd rfl apart
    | popped mover ticket batch threads pops step =>
      by_cases same : worker = mover
      · subst same
        cases step with
        | popReturn => exact Function.update_self worker _ _
      · dsimp only at works
        rw [Function.update_of_ne same] at works
        rcases step.pops_outside (outside worker works) with still | ⟨maxN, lingers, called⟩
        · exact still
        · cases called
    | analyze mover ticket batch due => exact kept (by simp [due]) works
    | count mover size due => exact kept (by simp [due]) works
    | countBatch mover due => exact kept (by simp [due]) works
    | check mover due => exact kept (by simp [due]) works

/-- Every batch removed from the queue is with one worker or has been analyzed, once. -/
structure Custody [Fintype κ] (pool : WorkerPool π κ σ α) : Prop where
  placed : (∑ worker, (pool.threads.pops worker).tokens) +
    (∑ worker, (pool.workers worker).tokens) + pool.analyzed = pool.threads.history.removals
  counted : ∃ counted, pool.processed = UInt64.ofNat counted ∧
    counted + ∑ worker, (pool.workers worker).uncounted =
      (pool.analyzed.map fun entry => entry.2.length).sum

variable [Fintype κ]

theorem Custody.start {pool : WorkerPool π κ σ α}
    (starts : (system π κ σ α capacity batchSize linger).start pool) : Custody pool := by
  rw [starts.2, show pool.threads = _ from starts.1]
  constructor
  · simp [PopPc.tokens, WorkerPc.tokens, FifoHistory.removals]
  · exact ⟨0, rfl, by simp [WorkerPc.uncounted]⟩

theorem Custody.step {event : QueueThreads.Event π κ σ α} {pool after : WorkerPool π κ σ α}
    (custody : Custody pool) (step : Step batchSize linger event pool after) : Custody after := by
  obtain ⟨placed, counted, processed, total⟩ := custody
  cases step with
  | queue event threads outer step =>
    have nothing : event.returned = 0 := by
      cases event with
      | popped worker ticket batch => cases outer
      | _ => rfl
    have next := placed_of_moved step.tokens placed
    rw [nothing, add_zero] at next
    exact ⟨next, counted, processed, total⟩
  | popBatch worker threads loops step =>
    refine ⟨?_, counted, processed, ?_⟩
    · have next := placed_of_moved step.tokens placed
      rw [QueueThreads.Event.returned, add_zero] at next
      · dsimp only
        rw [sum_update_same WorkerPc.tokens pool.workers (by rw [loops]; rfl)]
        exact next
      · simp
    · dsimp only
      rw [sum_update_same WorkerPc.uncounted pool.workers (by rw [loops]; rfl)]
      exact total
  | popped worker ticket batch threads pops step =>
    refine ⟨?_, counted, processed, ?_⟩
    · have next := placed_of_moved step.tokens placed
      have handed := sum_update WorkerPc.tokens pool.workers worker (.popped ticket batch)
      rw [pops, WorkerPc.tokens_popped] at handed
      have handed := (add_zero _).symm.trans handed
      dsimp only
      rw [handed]
      exact next
    · dsimp only
      rw [sum_update_same WorkerPc.uncounted pool.workers
        (by rw [pops, WorkerPc.uncounted_popped]; rfl)]
      exact total
  | analyze worker ticket batch due =>
    refine ⟨?_, counted, processed, ?_⟩
    · have given := sum_update WorkerPc.tokens pool.workers worker (.counting batch.length)
      rw [due] at given
      have given := given.trans (add_zero _)
      rw [← given] at placed
      dsimp only
      rw [← Multiset.coe_add, ← placed, Multiset.coe_singleton, WorkerPc.tokens]
      abel
    · have uncounted := sum_update WorkerPc.uncounted pool.workers worker (.counting batch.length)
      rw [due] at uncounted
      simp only [WorkerPc.uncounted, List.map_append, List.sum_append, List.map_singleton,
        List.sum_singleton] at uncounted total ⊢
      omega
  | count worker size due =>
    refine ⟨?_, counted + size, ?_, ?_⟩
    · dsimp only
      rw [sum_update_same WorkerPc.tokens pool.workers (by rw [due]; rfl)]
      exact placed
    · dsimp only
      rw [processed, UInt64.ofNat_add]
    · have uncounted := sum_update WorkerPc.uncounted pool.workers worker .countingBatch
      rw [due] at uncounted
      simp only [WorkerPc.uncounted] at uncounted total ⊢
      omega
  | countBatch worker due =>
    refine ⟨?_, counted, processed, ?_⟩
    · dsimp only
      rw [sum_update_same WorkerPc.tokens pool.workers (by rw [due]; rfl)]
      exact placed
    · dsimp only
      rw [sum_update_same WorkerPc.uncounted pool.workers (by rw [due]; rfl)]
      exact total
  | check worker due =>
    refine ⟨?_, counted, processed, ?_⟩
    · dsimp only
      rw [sum_update_same WorkerPc.tokens pool.workers (by rw [due]; split <;> rfl)]
      exact placed
    · dsimp only
      rw [sum_update_same WorkerPc.uncounted pool.workers (by rw [due]; split <;> rfl)]
      exact total

theorem Custody.of_reachable {pool : WorkerPool π κ σ α}
    (reachable : (system π κ σ α capacity batchSize linger).Reachable pool) : Custody pool := by
  refine TransitionSystem.Reachable.invariant ?_ ?_ reachable
  · exact fun first starts => Custody.start starts
  · intro before after _ moves custody
    obtain ⟨event, step⟩ := moves
    exact custody.step step

theorem analyzed_of_exited {pool : WorkerPool π κ σ α}
    (reachable : (system π κ σ α capacity batchSize linger).Reachable pool)
    (exited : ∀ worker, pool.workers worker = .exited) :
    pool.analyzed.Perm pool.threads.history.removals ∧
      pool.processed = UInt64.ofNat pool.threads.history.taken.length := by
  obtain ⟨placed, counted, processed, total⟩ := Custody.of_reachable reachable
  have idle : ∀ worker, pool.threads.pops worker = .outside := by
    intro worker
    refine outside_of_working reachable worker ?_
    rw [exited worker]
    simp
  have inside : (∑ worker, (pool.threads.pops worker).tokens) = 0 :=
    sum_of_idle PopPc.tokens idle rfl
  have held : (∑ worker, (pool.workers worker).tokens) = 0 :=
    sum_of_idle WorkerPc.tokens exited rfl
  have uncounted : (∑ worker, (pool.workers worker).uncounted) = 0 :=
    sum_of_idle WorkerPc.uncounted exited rfl
  rw [inside, held, zero_add, zero_add] at placed
  have same : pool.analyzed.Perm pool.threads.history.removals := Multiset.coe_eq_coe.mp placed
  refine ⟨same, ?_⟩
  rw [uncounted, add_zero] at total
  have sizes := (same.map fun entry => entry.2.length).sum_eq
  have length := congrArg List.length (FifoHistory.removals_flatten pool.threads.history)
  rw [List.length_flatten, List.map_map] at length
  rw [processed, total, sizes, ← length]
  rfl

end WorkerPool

end NetSentinel
