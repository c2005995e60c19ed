import NetSentinel.Queue.Wakeups

namespace NetSentinel

def PopPc.lingers {α : Type*} : PopPc α → Bool
  | .lingerWait _ parked => parked
  | _ => false

namespace QueueThreads

variable {π κ σ α : Type*}

/-- A producer waits for room in a full queue while the consumers wait for more packets. -/
def Standoff (state : QueueThreads π κ σ α) : Prop :=
  state.queue.capacity ≤ state.queue.items.length ∧
    (∃ producer, (state.pushes producer).parked) ∧
    (∃ consumer, (state.pops consumer).lingers) ∧
    ∀ consumer, (state.pops consumer).parked

theorem not_pending {state : QueueThreads π κ σ α}
    (pushes : ∀ producer, (state.pushes producer).notifies = false)
    (pops : ∀ consumer, (state.pops consumer).notifiesFull = false ∧
      (state.pops consumer).notifiesEmpty = false)
    (shutdowns : ∀ closer, state.shutdowns closer = .outside) : ¬ state.NotificationPending := by
  rintro ((⟨consumer, notifies⟩ | ⟨closer, notifies⟩) |
    ⟨producer, notifies⟩ | ⟨consumer, notifies⟩ | ⟨closer, notifies⟩)
  · rw [(pops consumer).1] at notifies
    cases notifies
  · rw [shutdowns closer] at notifies
    cases notifies
  · rw [pushes producer] at notifies
    cases notifies
  · rw [(pops consumer).2] at notifies
    cases notifies
  · rw [shutdowns closer] at notifies
    cases notifies

end QueueThreads

namespace WorkerPool

variable {π κ σ α : Type*} [DecidableEq π] [DecidableEq κ] [DecidableEq σ]
variable {capacity batchSize : Nat} {pool : WorkerPool π κ σ α}

theorem no_standoff (positive : 1 ≤ batchSize) (fits : batchSize ≤ capacity)
    (reachable : (system π κ σ α capacity batchSize true).Reachable pool)
    (quiet : ¬ pool.threads.NotificationPending) : ¬ pool.threads.Standoff := by
  intro standoff
  obtain ⟨-, ⟨producer, blocked⟩, ⟨consumer, -⟩, asleep⟩ := standoff
  have someone : Nonempty κ := ⟨consumer⟩
  obtain ⟨-, full, reached, -⟩ := no_lost_wakeup positive reachable quiet
  have length := reached producer blocked
  obtain ⟨worker, -, awake⟩ := full (by omega)
  rw [asleep worker] at awake
  cases awake

structure Unattended (capacity length : Nat) (pool : WorkerPool π κ σ α) : Prop where
  bound : pool.threads.queue.capacity = capacity
  length : pool.threads.queue.items.length = length
  running : pool.threads.queue.shutdown = false
  pushes : ∀ producer, pool.threads.pushes producer = .outside
  pops : ∀ consumer, pool.threads.pops consumer = .outside
  shutdowns : ∀ closer, pool.threads.shutdowns closer = .outside
  workers : ∀ worker, pool.workers worker = .looping

theorem Unattended.push {length : Nat} (unattended : Unattended capacity length pool)
    (reachable : (system π κ σ α capacity batchSize true).Reachable pool) (room : length < capacity)
    (producer : π) (packet : α) :
    ∃ after, (system π κ σ α capacity batchSize true).Reachable after ∧
      Unattended capacity (length + 1) after := by
  have called := reachable.next
    ⟨_, .queue (.push producer packet) _ rfl (.pushCall producer packet (unattended.pushes producer))⟩
  have pushed := called.next ⟨_, .queue .inside _ rfl
    (.pushRun producer pool.threads.history.calls.length packet (by simp [PushPc.ready]))⟩
  have outside : ∀ (pc next : PushPc α) (other : π), Function.update (Function.update
      (Function.update pool.threads.pushes producer pc) producer next) producer .outside other =
        .outside := by
    intro pc next other
    rw [Function.update_idem, Function.update_idem]
    by_cases same : other = producer
    · rw [same, Function.update_self]
    · rw [Function.update_of_ne same, unattended.pushes]
  have capacities := unattended.bound
  have lengths := unattended.length
  rcases pool.threads.queue.push_cases pool.threads.history.calls.length packet with
    ⟨full, -⟩ | ⟨closed, -⟩ | ⟨-, -, enqueued, notifies | ⟨quiet, -⟩⟩
  · omega
  · rw [unattended.running] at closed
    cases closed
  · dsimp only at pushed
    rw [enqueued, notifies] at pushed
    have notified := pushed.next ⟨_, .queue .inside _ rfl (.pushNotify producer _ _
      (Function.update_self _ _ _) (.nobody fun consumer => by rw [unattended.pops]; rfl))⟩
    have returned := notified.next ⟨_, .queue (.pushed producer true) _ rfl
      (.pushReturn producer _ _ (Function.update_self _ _ _))⟩
    refine ⟨_, returned, capacities, ?_, unattended.running, ?_, unattended.pops,
      unattended.shutdowns, unattended.workers⟩
    · simp [lengths]
    · intro other
      dsimp only
      rw [Function.update_idem]
      exact outside _ _ other
  · dsimp only at pushed
    rw [enqueued, quiet] at pushed
    have returned := pushed.next ⟨_, .queue (.pushed producer true) _ rfl
      (.pushReturn producer _ _ (Function.update_self _ _ _))⟩
    refine ⟨_, returned, capacities, ?_, unattended.running, outside _ _, unattended.pops,
      unattended.shutdowns, unattended.workers⟩
    simp [lengths]

theorem unattended_reachable (producer : π) (packet : α) {length : Nat} (room : length ≤ capacity) :
    ∃ pool, (system π κ σ α capacity batchSize true).Reachable pool ∧
      Unattended capacity length pool := by
  induction length with
  | zero =>
    refine ⟨⟨⟨{ capacity }, fun _ => .outside, fun _ => .outside, fun _ => .outside, {}⟩,
      fun _ => .looping, [], 0, 0⟩, TransitionSystem.Reachable.first ⟨rfl, rfl⟩, ?_⟩
    constructor <;> simp
  | succ length ih =>
    obtain ⟨pool, reachable, unattended⟩ := ih (Nat.le_of_succ_le room)
    exact unattended.push reachable room producer packet

/-- The producer waits for room; the workers in `lingering` wait for a full batch, and the others
    have not come to the queue yet. -/
structure Lingering (capacity batchSize : Nat) (producer : π) (lingering : Finset κ)
    (pool : WorkerPool π κ σ α) : Prop where
  bound : pool.threads.queue.capacity = capacity
  full : pool.threads.queue.items.length = capacity
  running : pool.threads.queue.shutdown = false
  blocked : (pool.threads.pushes producer).parked
  pushes : ∀ other, (pool.threads.pushes other).notifies = false
  lingers : ∀ consumer ∈ lingering, pool.threads.pops consumer = .lingerWait batchSize true
  pops : ∀ consumer ∉ lingering, pool.threads.pops consumer = .outside
  shutdowns : ∀ closer, pool.threads.shutdowns closer = .outside
  workers : ∀ worker ∉ lingering, pool.workers worker = .looping

theorem Unattended.blocks (unattended : Unattended capacity capacity pool)
    (reachable : (system π κ σ α capacity batchSize true).Reachable pool) (producer : π) (packet : α) :
    ∃ after, (system π κ σ α capacity batchSize true).Reachable after ∧
      Lingering capacity batchSize producer ∅ after := by
  have called := reachable.next
    ⟨_, .queue (.push producer packet) _ rfl (.pushCall producer packet (unattended.pushes producer))⟩
  have blocked := called.next ⟨_, .queue .inside _ rfl
    (.pushRun producer pool.threads.history.calls.length packet (by simp [PushPc.ready]))⟩
  have capacities := unattended.bound
  have lengths := unattended.length
  rcases pool.threads.queue.push_cases pool.threads.history.calls.length packet with
    ⟨-, -, waits⟩ | ⟨closed, -⟩ | ⟨room, -⟩
  · dsimp only at blocked
    rw [waits] at blocked
    refine ⟨_, blocked, capacities, lengths, unattended.running, ?_, ?_, nofun,
      fun consumer _ => unattended.pops consumer, unattended.shutdowns,
      fun worker _ => unattended.workers worker⟩
    · dsimp only
      rw [Function.update_self]
      rfl
    · intro other
      dsimp only
      rw [Function.update_idem]
      by_cases same : other = producer
      · rw [same, Function.update_self]
        rfl
      · rw [Function.update_of_ne same, unattended.pushes]
        rfl
  · rw [unattended.running] at closed
    cases closed
  · omega

theorem Lingering.joins {producer : π} {lingering : Finset κ} {worker : κ}
    (state : Lingering capacity batchSize producer lingering pool)
    (reachable : (system π κ σ α capacity batchSize true).Reachable pool) (positive : 1 ≤ capacity)
    (short : capacity < batchSize) (outside : worker ∉ lingering) :
    ∃ after, (system π κ σ α capacity batchSize true).Reachable after ∧
      Lingering capacity batchSize producer (insert worker lingering) after := by
  have called := reachable.next ⟨_, .popBatch worker _ (state.workers worker outside)
    (.popCall worker batchSize true (state.pops worker outside))⟩
  have full := state.full
  have lingers : pool.threads.queue.run pool.threads.history.batches.length false
      (.entering batchSize true) = some (batchSize, { pool.threads.queue with wanted := batchSize },
        .lingerWait batchSize true) := by
    have nonempty : pool.threads.queue.items ≠ [] := List.ne_nil_of_length_pos (by omega)
    have below : pool.threads.queue.items.length < batchSize := by omega
    simp [PacketQueue.run, PacketQueue.enter, PacketQueue.firstCheck, PacketQueue.lingerOrTake,
      nonempty, below, state.running]
  have waits := called.next ⟨_, .queue .inside _ rfl
    (.popRun worker false batchSize _ _ (by dsimp only; rw [Function.update_self]; exact lingers))⟩
  refine ⟨_, waits, state.bound, full, state.running, state.blocked, state.pushes, ?_, ?_,
    state.shutdowns, ?_⟩
  · intro consumer member
    dsimp only
    rw [Function.update_idem]
    rcases Finset.mem_insert.mp member with same | earlier
    · rw [same, Function.update_self]
    · rw [Function.update_of_ne (ne_of_mem_of_not_mem earlier outside)]
      exact state.lingers consumer earlier
  · intro consumer absent
    obtain ⟨different, absent⟩ := not_or.mp (Finset.mem_insert.not.mp absent)
    dsimp only
    rw [Function.update_idem, Function.update_of_ne different]
    exact state.pops consumer absent
  · intro other absent
    obtain ⟨different, absent⟩ := not_or.mp (Finset.mem_insert.not.mp absent)
    dsimp only
    rw [Function.update_of_ne different]
    exact state.workers other absent

theorem lingering_reachable (positive : 1 ≤ capacity) (short : capacity < batchSize)
    (producer : π) (packet : α) (lingering : Finset κ) :
    ∃ pool : WorkerPool π κ σ α, (system π κ σ α capacity batchSize true).Reachable pool ∧
      Lingering capacity batchSize producer lingering pool := by
  induction lingering using Finset.induction_on with
  | empty =>
    obtain ⟨pool, reachable, unattended⟩ :=
      unattended_reachable (κ := κ) (σ := σ) producer packet (le_refl capacity)
    exact unattended.blocks reachable producer packet
  | insert worker lingering outside ih =>
    obtain ⟨pool, reachable, state⟩ := ih
    exact state.joins reachable positive short outside

omit [DecidableEq π] [DecidableEq κ] [DecidableEq σ] in
theorem Lingering.standoff {producer : π} {lingering : Finset κ} [Nonempty κ]
    (state : Lingering capacity batchSize producer lingering pool)
    (everyone : ∀ worker, worker ∈ lingering) :
    pool.threads.queue.shutdown = false ∧ ¬ pool.threads.NotificationPending ∧
      pool.threads.Standoff := by
  have waits : ∀ consumer, pool.threads.pops consumer = .lingerWait batchSize true :=
    fun consumer => state.lingers consumer (everyone consumer)
  refine ⟨state.running, QueueThreads.not_pending state.pushes ?_ state.shutdowns, ?_, ?_, ?_, ?_⟩
  · intro consumer
    rw [waits]
    exact ⟨rfl, rfl⟩
  · rw [state.bound, state.full]
  · exact ⟨producer, state.blocked⟩
  · exact ⟨Classical.arbitrary κ, by rw [waits]; rfl⟩
  · intro consumer
    rw [waits]
    rfl

/-- Backpressure and lingering work against each other exactly when there is a worker and its batch
    does not fit the queue. -/
theorem producer_and_workers_never_wait_on_each_other_iff [Nonempty π] [Nonempty α] [Finite κ]
    (capacities : 1 ≤ capacity) (batches : 1 ≤ batchSize) :
    (∀ pool : WorkerPool π κ σ α, (system π κ σ α capacity batchSize true).Reachable pool →
      pool.threads.queue.shutdown = false → ¬ pool.threads.NotificationPending →
        ¬ pool.threads.Standoff) ↔ batchSize ≤ capacity ∨ IsEmpty κ := by
  constructor
  · intro never
    by_contra neither
    obtain ⟨short, someone⟩ := not_or.mp neither
    have inhabited : Nonempty κ := not_isEmpty_iff.mp someone
    obtain ⟨everyone⟩ := nonempty_fintype κ
    obtain ⟨pool, reachable, state⟩ := lingering_reachable (π := π) (σ := σ) (α := α)
      capacities (Nat.lt_of_not_le short) (Classical.arbitrary π) (Classical.arbitrary α)
      (Finset.univ : Finset κ)
    obtain ⟨running, quiet, standoff⟩ := state.standoff Finset.mem_univ
    exact never pool reachable running quiet standoff
  · intro condition pool reachable _ quiet standoff
    rcases condition with fits | nobody
    · exact no_standoff batches fits reachable quiet standoff
    · obtain ⟨-, -, ⟨consumer, -⟩, -⟩ := standoff
      exact nobody.elim consumer

theorem defaults_never_wait_on_each_other :
    64 ≤ 4096 ∧ ∀ pool : WorkerPool Unit (Fin 9) Unit Nat,
      (system Unit (Fin 9) Unit Nat 4096 64 true).Reachable pool →
        pool.threads.queue.shutdown = false → ¬ pool.threads.NotificationPending →
          ¬ pool.threads.Standoff :=
  have fits : 64 ≤ 4096 := by decide
  ⟨fits, (producer_and_workers_never_wait_on_each_other_iff (by decide) (by decide)).mpr (.inl fits)⟩

/-- One place in the queue, batches of two: the second packet waits for a worker that waits for the
    second packet. -/
theorem batch_beyond_capacity_stands_off : ∃ pool : WorkerPool Unit Unit Unit Nat,
    (system Unit Unit Unit Nat 1 2 true).Reachable pool ∧ pool.threads.queue.shutdown = false ∧
      ¬ pool.threads.NotificationPending ∧ pool.threads.Standoff := by
  obtain ⟨pool, reachable, state⟩ := lingering_reachable (σ := Unit) (le_refl 1) Nat.one_lt_two () 7
    (Finset.univ : Finset Unit)
  exact ⟨pool, reachable, state.standoff Finset.mem_univ⟩

end WorkerPool

end NetSentinel
