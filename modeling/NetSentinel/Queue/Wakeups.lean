import NetSentinel.Queue.Notifications
import NetSentinel.Queue.WorkerPool

namespace NetSentinel

namespace QueueThreads

variable {π κ σ α : Type*} [DecidableEq π] [DecidableEq κ] [DecidableEq σ]
variable {event : Event π κ σ α} {state after : QueueThreads π κ σ α}

/-- The invariant behind the sparse notifications. -/
structure Wakeful (batchSize : Nat) (state : QueueThreads π κ σ α) : Prop where
  asked : ∀ consumer maxN, (state.pops consumer).maxN = some maxN → maxN = batchSize
  wanted : ∀ consumer, (state.pops consumer).waits → state.queue.wanted = batchSize
  first : state.queue.items ≠ [] →
    (∃ consumer, (state.pops consumer).firstParked = false) ∨ state.EmptyPending
  full : batchSize ≤ state.queue.items.length → state.Served
  blocked : ∀ producer, (state.pushes producer).parked →
    state.queue.capacity ≤ state.queue.items.length ∨ state.FullPending
  closedPushes : state.queue.shutdown → ∀ producer, (state.pushes producer).parked →
    ∃ closer, (state.shutdowns closer).notifiesFull
  closedPops : state.queue.shutdown → ∀ consumer, (state.pops consumer).parked →
    ∃ closer, (state.shutdowns closer).notifiesEmpty

section Wakeful

variable {batchSize : Nat}

theorem Wakeful.start {capacity : Nat} (starts : (system π κ σ α capacity).start state)
    [Nonempty κ] : Wakeful batchSize state := by
  rw [show state = _ from starts]
  constructor
  case full => exact fun _ => .inl ⟨Classical.arbitrary κ, rfl⟩
  all_goals simp [PopPc.maxN, PopPc.waits, PopPc.parked, PushPc.parked]

theorem Wakeful.asked_step (wakeful : Wakeful batchSize state) (step : Step event state after)
    (sized : ∀ consumer maxN linger, event = .popBatch consumer maxN linger → maxN = batchSize) :
    ∀ consumer maxN, (after.pops consumer).maxN = some maxN → maxN = batchSize := by
  intro consumer maxN asks
  rcases step.asks asks with before | ⟨linger, called⟩
  · exact wakeful.asked consumer maxN before
  · exact sized consumer maxN linger called

theorem Wakeful.wanted_step (wakeful : Wakeful batchSize state) (step : Step event state after) :
    ∀ consumer, (after.pops consumer).waits → after.queue.wanted = batchSize := by
  intro consumer waits
  rcases step.wanted waits with ⟨same, other, waited⟩ | ⟨other, asks⟩
  · exact same.trans (wakeful.wanted other waited)
  · exact wakeful.asked other _ asks

theorem Wakeful.first_step [Nonempty κ] (wakeful : Wakeful batchSize state)
    (step : Step event state after) (nonempty : after.queue.items ≠ []) :
    (∃ consumer, (after.pops consumer).firstParked = false) ∨ after.EmptyPending := by
  cases step.serves with
  | served served => exact served.first
  | nothing pops items pending =>
    rw [items] at nonempty
    rw [pops]
    exact (wakeful.first nonempty).imp_right pending
  | quietPush pops before more unwanted pending =>
    rw [pops]
    exact (wakeful.first before).imp_right pending
  | firstWait empty => exact absurd empty nonempty
  | lingerWait consumer maxN waits short => exact .inl ⟨consumer, by rw [waits]; rfl⟩

/-- The push that completes a batch is quiet only if nobody waits: as long as anybody does,
    `wanted` is the batch size. -/
theorem Wakeful.full_step [Nonempty κ] (positive : 1 ≤ batchSize)
    (wakeful : Wakeful batchSize state) (step : Step event state after)
    (sized : ∀ consumer maxN, (after.pops consumer).maxN = some maxN → maxN = batchSize)
    (full : batchSize ≤ after.queue.items.length) : after.Served := by
  cases step.serves with
  | served served => exact served
  | nothing pops items pending =>
    rw [items] at full
    rw [Served, pops]
    exact (wakeful.full full).imp_right pending
  | quietPush pops before more unwanted pending =>
    rw [Served, pops]
    by_cases already : batchSize ≤ state.queue.items.length
    · exact (wakeful.full already).imp_right pending
    · left
      by_contra asleep
      have parked : (state.pops (Classical.arbitrary κ)).parked := by
        rw [← Bool.not_eq_false]
        exact fun awake => asleep ⟨_, awake⟩
      have wanted := wakeful.wanted _ (PopPc.waits_of_parked parked)
      omega
  | firstWait empty =>
    rw [empty, List.length_nil] at full
    omega
  | lingerWait consumer maxN waits short =>
    have asks : (after.pops consumer).maxN = some maxN := by
      rw [waits]
      rfl
    have size := sized consumer maxN asks
    omega

theorem Wakeful.blocked_step (wakeful : Wakeful batchSize state) (step : Step event state after) :
    ∀ producer, (after.pushes producer).parked →
      after.queue.capacity ≤ after.queue.items.length ∨ after.FullPending := by
  intro producer parked
  obtain ⟨capacity, shrinks⟩ := step.shrinks
  rcases step.parked_push parked with before | ⟨full, -⟩
  · rcases wakeful.blocked producer before with full | pending
    · rcases shrinks with grew | due
      · rw [capacity]
        exact .inl (Nat.le_trans full grew)
      · exact .inr due
    · rcases step.full_pending pending with still | awake
      · exact .inr still
      · rw [awake producer] at parked
        cases parked
  · exact .inl full

theorem Wakeful.closed_step (wakeful : Wakeful batchSize state) (step : Step event state after)
    (closed : after.queue.shutdown) :
    (∀ producer, (after.pushes producer).parked →
      ∃ closer, (after.shutdowns closer).notifiesFull) ∧
    ∀ consumer, (after.pops consumer).parked →
      ∃ closer, (after.shutdowns closer).notifiesEmpty := by
  rcases step.closes closed with before | closing
  · constructor
    · intro producer parked
      rcases step.parked_push parked with earlier | ⟨-, running⟩
      · rcases step.closing_full (wakeful.closedPushes before producer earlier) with still | awake
        · exact still
        · rw [awake producer] at parked
          cases parked
      · rw [running] at closed
        cases closed
    · intro consumer parked
      rcases step.parked_pop parked with earlier | running
      · rcases step.closing_empty (wakeful.closedPops before consumer earlier) with still | awake
        · exact still
        · rw [awake consumer] at parked
          cases parked
      · rw [running] at closed
        cases closed
  · exact ⟨fun _ _ => closing, fun _ _ => closing.imp fun _ full => ShutdownPc.notifiesEmpty_of_full full⟩

theorem Wakeful.step [Nonempty κ] (positive : 1 ≤ batchSize) (wakeful : Wakeful batchSize state)
    (step : Step event state after)
    (sized : ∀ consumer maxN linger, event = .popBatch consumer maxN linger → maxN = batchSize) :
    Wakeful batchSize after := by
  have asked := wakeful.asked_step step sized
  exact ⟨asked, wakeful.wanted_step step, wakeful.first_step step,
    wakeful.full_step positive step asked, wakeful.blocked_step step,
    fun closed => (wakeful.closed_step step closed).1,
    fun closed => (wakeful.closed_step step closed).2⟩

end Wakeful

end QueueThreads

namespace WorkerPool

variable {π κ σ α : Type*} [DecidableEq π] [DecidableEq κ] [DecidableEq σ]

/-- With no notification due: a non-empty queue has a worker outside the first wait, a full batch
    has a worker outside both waits, a parked producer faces a full queue, and after a shutdown
    nobody is parked. -/
theorem no_lost_wakeup [Nonempty κ] {capacity batchSize : Nat} {linger : Bool}
    {pool : WorkerPool π κ σ α} (positive : 1 ≤ batchSize)
    (reachable : (system π κ σ α capacity batchSize linger).Reachable pool)
    (quiet : ¬ pool.threads.NotificationPending) :
    (pool.threads.queue.items ≠ [] → ∃ worker, pool.workers worker ≠ .exited ∧
      (pool.threads.pops worker).firstParked = false) ∧
    (batchSize ≤ pool.threads.queue.items.length → ∃ worker, pool.workers worker ≠ .exited ∧
      (pool.threads.pops worker).parked = false) ∧
    (∀ producer, (pool.threads.pushes producer).parked →
      pool.threads.queue.items.length = capacity) ∧
    (pool.threads.queue.shutdown → (∀ producer, (pool.threads.pushes producer).parked = false) ∧
      ∀ worker, (pool.threads.pops worker).parked = false) := by
  have full : ¬ pool.threads.FullPending := fun due => quiet (.inl due)
  have empty : ¬ pool.threads.EmptyPending := fun due => quiet (.inr due)
  have wakeful : QueueThreads.Wakeful batchSize pool.threads := by
    refine threads_invariant (P := QueueThreads.Wakeful batchSize) ?_ ?_ reachable
    · exact fun threads start => QueueThreads.Wakeful.start start
    · exact fun event threads after step sized holds => holds.step positive step sized
  have present : pool.threads.queue.items ≠ [] → ∀ worker, pool.workers worker ≠ .exited := by
    intro nonempty worker exited
    have finished := exited_finished reachable worker exited
    rw [PacketQueue.isFinished, Bool.and_eq_true, List.isEmpty_iff] at finished
    exact nonempty finished.2
  have ordered := FifoState.Ordered.of_reachable
    (QueueThreads.fifo_reachable (threads_reachable reachable))
  refine ⟨?_, ?_, ?_, ?_⟩
  · intro nonempty
    obtain ⟨worker, awake⟩ := (wakeful.first nonempty).resolve_right empty
    exact ⟨worker, present nonempty worker, awake⟩
  · intro batch
    obtain ⟨worker, awake⟩ := (wakeful.full batch).resolve_right empty
    refine ⟨worker, present ?_ worker, awake⟩
    exact List.ne_nil_of_length_pos (Nat.lt_of_lt_of_le positive batch)
  · intro producer parked
    have reached := (wakeful.blocked producer parked).resolve_right full
    have same : pool.threads.queue.capacity = capacity := ordered.capacity
    have bounded : pool.threads.queue.items.length ≤ capacity := ordered.bounded
    omega
  · intro closed
    constructor
    · intro producer
      rw [← Bool.not_eq_true]
      exact fun parked => full (.inr (wakeful.closedPushes closed producer parked))
    · intro worker
      rw [← Bool.not_eq_true]
      exact fun parked => empty (.inr (.inr (wakeful.closedPops closed worker parked)))

theorem one_packet_run : ∃ pool : WorkerPool Unit (Fin 2) Unit Nat,
    (system Unit (Fin 2) Unit Nat 4 2 true).Reachable pool ∧ pool.threads.queue.items = [7] ∧
      ¬ pool.threads.NotificationPending ∧ (pool.threads.pops 0).firstParked = true := by
  have start : (system Unit (Fin 2) Unit Nat 4 2 true).Reachable
      ⟨⟨{ capacity := 4 }, fun _ => .outside, fun _ => .outside, fun _ => .outside, {}⟩,
        fun _ => .looping, [], 0, 0⟩ := TransitionSystem.Reachable.first ⟨rfl, rfl⟩
  have firstCall := start.next ⟨_, .popBatch 0 _ rfl (.popCall 0 2 true rfl)⟩
  have firstWaits := firstCall.next ⟨_, .queue .inside _ rfl (.popRun 0 false 2 _ _ rfl)⟩
  have secondCall := firstWaits.next ⟨_, .popBatch 1 _ rfl (.popCall 1 2 true rfl)⟩
  have secondWaits := secondCall.next ⟨_, .queue .inside _ rfl (.popRun 1 false 2 _ _ rfl)⟩
  have called := secondWaits.next ⟨_, .queue (.push () 7) _ rfl (.pushCall () 7 rfl)⟩
  have pushed := called.next ⟨_, .queue .inside _ rfl (.pushRun () 0 7 rfl)⟩
  have notified := pushed.next
    ⟨_, .queue .inside _ rfl (.pushNotify () 0 _ rfl (.wakes 1 rfl))⟩
  exact ⟨_, notified, rfl, by decide, rfl⟩

theorem pushed_packet_wakes_a_worker : ∃ pool : WorkerPool Unit (Fin 2) Unit Nat,
    (pool.threads.pops 0).firstParked = true ∧
      ∃ worker, pool.workers worker ≠ .exited ∧ (pool.threads.pops worker).firstParked = false := by
  obtain ⟨pool, reachable, items, quiet, parked⟩ := one_packet_run
  have awake := no_lost_wakeup (by decide) reachable quiet
  exact ⟨pool, parked, awake.1 (by rw [items]; simp)⟩

end WorkerPool

end NetSentinel
