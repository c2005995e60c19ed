import NetSentinel.Queue.Custody

namespace NetSentinel

/-- What a step does to the items on a queue and to those that each consumer has taken and not used
    yet, with what it brings in and what it uses. -/
inductive Handover {κ α : Type*} [DecidableEq κ] (items : List α) (held : κ → List α) :
    List α → List α → List α → (κ → List α) → Prop
  | keep : Handover items held [] [] items held
  | arrive (item : α) : Handover items held [item] [] (items ++ [item]) held
  | take (consumer : κ) (batch rest : List α) (free : held consumer = []) (nonempty : batch ≠ [])
      (front : items = batch ++ rest) :
      Handover items held [] [] rest (Function.update held consumer batch)
  | use (consumer : κ) (item : α) (rest : List α) (next : held consumer = item :: rest) :
      Handover items held [] [item] items (Function.update held consumer rest)

namespace Handover

variable {κ α : Type*} [DecidableEq κ] {items later arrived : List α} {held after : κ → List α}

theorem of_same (same : ∀ consumer, after consumer = held consumer) :
    Handover items held [] [] items after := by
  rw [show after = held from funext same]
  exact .keep

theorem beside (handover : Handover items held arrived [] later after) {more : κ → List α}
    (apart : ∀ consumer, after consumer ≠ [] → more consumer = []) :
    Handover items (fun consumer => held consumer ++ more consumer) arrived [] later
      (fun consumer => after consumer ++ more consumer) := by
  cases handover with
  | keep => exact .keep
  | arrive item => exact .arrive item
  | take consumer batch rest free nonempty front =>
    have alone : more consumer = [] := by
      refine apart consumer ?_
      rwa [Function.update_self]
    have moved := funext
      (Function.apply_update (fun other taken => taken ++ more other) held consumer batch)
    rw [moved, alone, List.append_nil]
    exact .take consumer batch _ (by rw [free, alone]; rfl) nonempty front

theorem masked (handover : Handover items held arrived [] later after)
    {mask : κ → Option (List α)} (seen : ∀ consumer, after consumer ≠ held consumer → mask consumer = none) :
    Handover items (fun consumer => (mask consumer).getD (held consumer)) arrived [] later
      (fun consumer => (mask consumer).getD (after consumer)) := by
  cases handover with
  | keep => exact .keep
  | arrive item => exact .arrive item
  | take consumer batch rest free nonempty front =>
    have plain : mask consumer = none := by
      refine seen consumer ?_
      rwa [Function.update_self, free]
    have moved := funext
      (Function.apply_update (fun other taken => (mask other).getD taken) held consumer batch)
    rw [moved, plain, Option.getD_none]
    exact .take consumer batch _ (by rw [plain, Option.getD_none, free]) nonempty front

end Handover

def PopPc.holding {α : Type*} : PopPc α → List α
  | .notifying _ batch _ _ => batch
  | _ => []

def WorkerPc.holding {α : Type*} : WorkerPc α → List α
  | .analyzing _ batch => batch
  | _ => []

@[simp] theorem PopPc.holding_wake {α : Type*} (pc : PopPc α) : pc.wake.holding = pc.holding := by
  cases pc <;> rfl

theorem PopPc.holding_of_run {α : Type*} {queue next : PacketQueue α} {ticket maxN : Nat}
    {timedOut : Bool} {pc after : PopPc α}
    (runs : queue.run ticket timedOut pc = some (maxN, next, after)) : pc.holding = [] := by
  cases pc with
  | notifying ticket batch notFull notEmpty => cases runs
  | _ => rfl

theorem WorkerPc.holding_popped {α : Type*} (ticket : Nat) (batch : List α) :
    (WorkerPc.popped ticket batch).holding = batch := by
  cases batch <;> rfl

namespace QueueThreads

variable {π κ σ α : Type*} [DecidableEq π] [DecidableEq κ] [DecidableEq σ] {event : Event π κ σ α}
  {state after : QueueThreads π κ σ α}

def holding (state : QueueThreads π κ σ α) (consumer : κ) : List α := (state.pops consumer).holding

/-- Only a push that finds room and a `pop_batch` that takes something change what there is. -/
theorem Step.handover (step : Step event state after)
    (inside : ∀ consumer ticket batch, event ≠ .popped consumer ticket batch) :
    ∃ arrived, Handover state.queue.items state.holding arrived [] after.queue.items after.holding ∧
      after.history.enqueuedItems = state.history.enqueuedItems ++ arrived := by
  have still {pops : κ → PopPc α}
      (same : ∀ consumer, (pops consumer).holding = (state.pops consumer).holding) :
      ∃ arrived, Handover state.queue.items state.holding arrived [] state.queue.items
          (fun consumer => (pops consumer).holding) ∧
        state.history.enqueuedItems = state.history.enqueuedItems ++ arrived :=
    ⟨[], .of_same same, (List.append_nil _).symm⟩
  have moved {mover : κ} {pc : PopPc α} (same : pc.holding = (state.pops mover).holding)
      (consumer : κ) : (Function.update state.pops mover pc consumer).holding =
        (state.pops consumer).holding := Family.update_keeps PopPc.holding same consumer
  cases step with
  | pushRun producer call packet ready =>
    dsimp only
    rcases state.queue.push_cases call packet with
      ⟨-, -, same⟩ | ⟨-, same⟩ | ⟨-, -, queue, pc⟩
    · rw [same]
      exact still fun _ => rfl
    · rw [same]
      exact still fun _ => rfl
    · refine ⟨[packet], ?_, ?_⟩
      · rw [queue]
        exact .arrive packet
      · have accepted : (state.queue.push call packet).2.accepted := by
          rcases pc with same | ⟨same, -⟩ <;> rw [same] <;> rfl
        rw [logPush, if_pos accepted]
        exact List.map_append
  | pushNotify producer call pops due notified =>
    exact still (notified.keeps PopPc.holding_wake)
  | popCall mover maxN linger outside =>
    exact still (moved (by rw [outside]; rfl))
  | popRun mover timedOut maxN queue pc runs =>
    have free := PopPc.holding_of_run runs
    obtain ⟨wanted, outcome, -⟩ := PacketQueue.run_outcome runs
    cases outcome with
    | firstWait linger empty running => exact still (moved free.symm)
    | lingerWait short running => exact still (moved free.symm)
    | take =>
      refine ⟨[], ?_, (List.append_nil _).symm⟩
      by_cases nothing : state.queue.items.take maxN = []
      · have whole : state.queue.items.drop maxN = state.queue.items := by
          have parts := List.take_append_drop maxN state.queue.items
          rwa [nothing, List.nil_append] at parts
        dsimp only
        rw [whole]
        exact .of_same (moved (nothing.trans free.symm))
      · have moved (pc : PopPc α) :=
          funext (Function.apply_update (fun _ pc => PopPc.holding pc) state.pops mover pc)
        unfold QueueThreads.holding
        rw [moved]
        exact .take mover _ _ free nothing (List.take_append_drop maxN state.queue.items).symm
  | popWake mover asleep => exact still (moved (PopPc.holding_wake _))
  | popNotifyFull mover ticket batch notEmpty due =>
    exact still (moved (by rw [due]; rfl))
  | popNotifyEmpty mover ticket batch pops due notified =>
    refine still fun consumer => ?_
    rw [notified.keeps PopPc.holding_wake]
    exact moved (by rw [due]; rfl) consumer
  | popReturn mover ticket batch done => exact absurd rfl (inside mover ticket batch)
  | shutdownNotifyEmpty mover due => exact still fun consumer => PopPc.holding_wake _
  | _ => exact still fun _ => rfl

end QueueThreads

namespace WorkerPool

variable {π κ σ α : Type*} [DecidableEq π] [DecidableEq κ] [DecidableEq σ] {batchSize : Nat}
  {linger : Bool} {event : QueueThreads.Event π κ σ α} {pool after : WorkerPool π κ σ α}

def held (pool : WorkerPool π κ σ α) (worker : κ) : List α :=
  pool.threads.holding worker ++ (pool.workers worker).holding

omit [DecidableEq π] [DecidableEq κ] [DecidableEq σ] in
theorem held_of_analyzing
    (outside : ∀ worker, pool.workers worker ≠ .popping → pool.threads.pops worker = .outside)
    {worker : κ} {ticket : Nat} {batch : List α} (busy : pool.workers worker = .analyzing ticket batch) :
    pool.held worker = batch := by
  rw [held, QueueThreads.holding, outside worker (by rw [busy]; exact nofun), busy]
  rfl

theorem Step.handover (step : Step batchSize linger event pool after)
    (stays : after.analyzed = pool.analyzed)
    (outside : ∀ worker, after.workers worker ≠ .popping → after.threads.pops worker = .outside) :
    ∃ arrived, Handover pool.threads.queue.items pool.held arrived [] after.threads.queue.items
        after.held ∧
      after.threads.history.enqueuedItems = pool.threads.history.enqueuedItems ++ arrived := by
  have apart (worker : κ) (busy : after.threads.holding worker ≠ []) :
      (after.workers worker).holding = [] := by
    by_cases pops : after.workers worker = .popping
    · rw [pops]
      rfl
    · rw [QueueThreads.holding, outside worker pops] at busy
      exact absurd rfl busy
  have queue {inner : QueueThreads.Event π κ σ α} {threads : QueueThreads π κ σ α}
      {workers : κ → WorkerPc α} (moves : QueueThreads.Step inner pool.threads threads)
      (inside : ∀ worker ticket batch, inner ≠ .popped worker ticket batch)
      (same : ∀ worker, (workers worker).holding = (pool.workers worker).holding)
      (apart : ∀ worker, threads.holding worker ≠ [] → (workers worker).holding = []) :
      ∃ arrived, Handover pool.threads.queue.items pool.held arrived [] threads.queue.items
          (fun worker => threads.holding worker ++ (workers worker).holding) ∧
        threads.history.enqueuedItems = pool.threads.history.enqueuedItems ++ arrived := by
    obtain ⟨arrived, handover, enqueued⟩ := moves.handover inside
    have both := handover.beside apart
    simp only [same] at both ⊢
    exact ⟨arrived, both, enqueued⟩
  have worker {mover : κ} {pc : WorkerPc α} (same : pc.holding = (pool.workers mover).holding)
      (other : κ) : (Function.update pool.workers mover pc other).holding =
        (pool.workers other).holding := Family.update_keeps WorkerPc.holding same other
  have alone {mover : κ} {pc : WorkerPc α} (same : pc.holding = (pool.workers mover).holding) :
      ∃ arrived, Handover pool.threads.queue.items pool.held arrived [] pool.threads.queue.items
          (fun other => pool.threads.holding other ++
            (Function.update pool.workers mover pc other).holding) ∧
        pool.threads.history.enqueuedItems = pool.threads.history.enqueuedItems ++ arrived :=
    ⟨[], .of_same fun other => congrArg (_ ++ ·) (worker same other), (List.append_nil _).symm⟩
  cases step with
  | queue event threads outer step =>
    refine queue step (fun worker ticket batch same => ?_) (fun _ => rfl) apart
    rw [same] at outer
    cases outer
  | popBatch mover threads loops step =>
    exact queue step (fun _ _ _ => nofun) (worker (by rw [loops]; rfl)) apart
  | popped mover ticket batch threads pops step =>
    cases step with
    | popReturn _ _ _ done =>
      refine ⟨[], .of_same fun other => ?_, (List.append_nil _).symm⟩
      unfold held QueueThreads.holding
      dsimp only
      by_cases own : other = mover
      · rw [own, Function.update_self, Function.update_self, WorkerPc.holding_popped, done, pops]
        exact (List.append_nil _).symm
      · rw [Function.update_of_ne own, Function.update_of_ne own]
  | analyze mover ticket batch due =>
    have longer := congrArg List.length stays
    simp at longer
  | count mover size due => exact alone (by rw [due]; rfl)
  | countBatch mover due => exact alone (by rw [due]; rfl)
  | check mover due =>
    refine alone ?_
    rw [due]
    split <;> rfl

end WorkerPool

end NetSentinel
