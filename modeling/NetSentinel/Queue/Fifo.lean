import NetSentinel.Queue.Threads

namespace NetSentinel

namespace QueueThreads

variable {π κ σ α : Type*}

def fifo (state : QueueThreads π κ σ α) : FifoState π α where
  items := state.queue.items
  capacity := state.queue.capacity
  closed := state.queue.shutdown
  calls producer := (state.pushes producer).view
  history := state.history

variable [DecidableEq π] [DecidableEq κ] [DecidableEq σ]

theorem view_update (pushes : π → PushPc α) (producer : π) (pc : PushPc α) :
    (fun other => (Function.update pushes producer pc other).view) =
      Function.update (fun other => (pushes other).view) producer pc.view := by
  funext other
  by_cases same : other = producer
  · subst same
    rw [Function.update_self, Function.update_self]
  · rw [Function.update_of_ne same, Function.update_of_ne same]

theorem view_unchanged (pushes : π → PushPc α) {producer : π} {pc : PushPc α}
    (same : pc.view = (pushes producer).view) :
    (fun other => (Function.update pushes producer pc other).view) =
      fun other => (pushes other).view := by
  rw [view_update, same]
  exact Function.update_eq_self producer _

/-- Every step of the threads is a step of the FIFO or invisible to it. -/
theorem Step.refines {event : Event π κ σ α} {state after : QueueThreads π κ σ α}
    (step : Step event state after) :
    FifoState.Step state.fifo after.fifo ∨ after.fifo = state.fifo := by
  cases step with
  | pushCall producer packet outside =>
    left
    have idle : state.fifo.calls producer = none := congrArg PushPc.view outside
    simp only [QueueThreads.fifo, view_update]
    exact FifoState.Step.call producer packet idle
  | pushRun producer call packet ready =>
    have undecided : state.fifo.calls producer = some (call, .inl packet) :=
      PushPc.view_of_ready ready
    rcases state.queue.push_cases call packet with ⟨-, -, waits⟩ | ⟨stopped, refused⟩ |
      ⟨room, running, pushed, accepted⟩
    · right
      have same : (PushPc.waiting call packet true).view = (state.pushes producer).view :=
        undecided.symm
      simp only [QueueThreads.fifo, waits, view_unchanged state.pushes same, logPush,
        PushPc.accepted, Bool.false_eq_true, if_false]
    · left
      simp only [QueueThreads.fifo, refused, view_update, logPush, PushPc.accepted,
        Bool.false_eq_true, if_false]
      exact FifoState.Step.refuse producer call packet undecided stopped
    · left
      have decided : (state.queue.push call packet).2.view = some (call, .inr true) ∧
          (state.queue.push call packet).2.accepted = true := by
        rcases accepted with notifies | ⟨quiet, -⟩
        · rw [notifies]
          exact ⟨rfl, rfl⟩
        · rw [quiet]
          exact ⟨rfl, rfl⟩
      simp only [QueueThreads.fifo, pushed, view_update, decided.1, logPush, decided.2,
        if_true]
      exact FifoState.Step.enqueue producer call packet undecided room running
  | pushWake producer parked =>
    right
    simp only [QueueThreads.fifo, view_unchanged state.pushes (PushPc.view_wake _)]
  | pushNotify producer call pops due notified =>
    right
    have same : (PushPc.returning call true : PushPc α).view = (state.pushes producer).view := by
      rw [due]
      rfl
    simp only [QueueThreads.fifo, view_unchanged state.pushes same]
  | pushReturn producer call result done =>
    left
    have decided : state.fifo.calls producer = some (call, .inr result) :=
      congrArg PushPc.view done
    simp only [QueueThreads.fifo, view_update]
    exact FifoState.Step.answer producer call result decided
  | popRun consumer timedOut maxN queue pc runs =>
    obtain ⟨wanted, outcome, -⟩ := PacketQueue.run_outcome runs
    cases outcome with
    | firstWait linger empty running => exact .inr rfl
    | lingerWait short running => exact .inr rfl
    | take => exact .inl (FifoState.Step.take maxN)
  | popNotifyFull consumer ticket batch notEmpty due =>
    right
    simp only [QueueThreads.fifo, PushPc.view_wake]
  | shutdownRun closer entering => exact .inl FifoState.Step.close
  | shutdownNotifyFull closer due =>
    right
    simp only [QueueThreads.fifo, PushPc.view_wake]
  | popCall => exact .inr rfl
  | popWake => exact .inr rfl
  | popNotifyEmpty => exact .inr rfl
  | popReturn => exact .inr rfl
  | shutdownCall => exact .inr rfl
  | shutdownNotifyEmpty => exact .inr rfl
  | shutdownReturn => exact .inr rfl

theorem fifo_reachable {capacity : Nat} {state : QueueThreads π κ σ α}
    (reachable : (system π κ σ α capacity).Reachable state) :
    (FifoState.system π α capacity).Reachable state.fifo := by
  refine reachable.map ?_ ?_
  · intro first start
    rw [show first = _ from start]
    rfl
  · intro before after _ step
    obtain ⟨event, step⟩ := step
    exact step.refines

theorem fifo_leads {capacity : Nat} {state after : QueueThreads π κ σ α}
    (run : (system π κ σ α capacity).Leads state after) :
    (FifoState.system π α capacity).Leads state.fifo after.fifo := by
  induction run with
  | refl => exact Relation.ReflTransGen.refl
  | tail earlier step ih =>
    obtain ⟨event, step⟩ := step
    rcases step.refines with moved | same
    · exact ih.tail moved
    · rw [same]
      exact ih

def Returns (state : QueueThreads π κ σ α) (call : Nat) (result : Bool) : Prop :=
  (call, result) ∈ state.history.answers ∨
    ∃ producer, (state.pushes producer).view = some (call, .inr result)

structure BoundedFifo (capacity : Nat) (state : QueueThreads π κ σ α) : Prop where
  order : state.history.enqueuedItems = state.history.taken ++ state.queue.items
  bounded : state.queue.items.length ≤ capacity
  sized : ∀ batch ∈ state.history.batches, batch.2.length ≤ batch.1
  once : state.history.accepted.Nodup
  own : ∀ entry ∈ state.history.enqueued, state.history.calls[entry.1]? = some entry.2
  accepted : ∀ call, call ∈ state.history.accepted ↔ state.Returns call true
  refused : ∀ call result, state.Returns call result →
    (result = false ↔ call ∉ state.history.accepted) ∧ (result = false → state.queue.shutdown)
  finished : state.queue.isFinished → state.history.taken = state.history.enqueuedItems

structure ShutdownDrains (state after : QueueThreads π κ σ α) : Prop where
  closed : state.queue.shutdown → after.queue.shutdown
  enqueued : state.queue.shutdown → after.history.enqueued = state.history.enqueued
  delivered : state.queue.shutdown → ∃ batches,
    after.history.batches = state.history.batches ++ batches ∧
      (batches.map Prod.snd).flatten ++ after.queue.items = state.queue.items
  finished : state.queue.isFinished → after.queue.isFinished

theorem BoundedFifo.of_reachable {capacity : Nat} {state : QueueThreads π κ σ α}
    (reachable : (system π κ σ α capacity).Reachable state) : BoundedFifo capacity state := by
  have ordered := FifoState.Ordered.of_reachable (fifo_reachable reachable)
  have answered := FifoState.Answered.of_reachable (fifo_reachable reachable)
  have decided : ∀ call result, state.Returns call result →
      FifoState.Decided state.fifo call result := by
    intro call result returns
    rcases returns with given | ⟨producer, due⟩
    · exact answered.answered (call, result) given
    · exact answered.decided producer call result due
  constructor
  case order => exact ordered.conserved
  case bounded => exact ordered.bounded
  case sized => exact ordered.sized
  case once => exact answered.once
  case own => exact answered.enqueued
  case accepted =>
    intro call
    constructor
    · exact answered.accounted call
    · intro returns
      exact (decided call true returns).accepted.mp rfl
  case refused =>
    intro call result returns
    obtain ⟨-, accepted, refused⟩ := decided call result returns
    refine ⟨?_, refused⟩
    have accepted : result = true ↔ call ∈ state.history.accepted := accepted
    rw [← accepted, Bool.not_eq_true]
  case finished =>
    intro finished
    have conserved : state.history.enqueuedItems = state.history.taken ++ state.queue.items :=
      ordered.conserved
    rw [PacketQueue.isFinished, Bool.and_eq_true, List.isEmpty_iff] at finished
    rw [conserved, finished.2, List.append_nil]

theorem ShutdownDrains.of_leads {capacity : Nat} {state after : QueueThreads π κ σ α}
    (run : (system π κ σ α capacity).Leads state after) : ShutdownDrains state after := by
  have draining : state.queue.shutdown → FifoState.Draining state.fifo after.fifo :=
    fun closed => FifoState.Draining.of_leads closed (fifo_leads run)
  constructor
  case closed => exact fun closed => (draining closed).closed
  case enqueued => exact fun closed => (draining closed).enqueued
  case delivered => exact fun closed => (draining closed).taken
  case finished =>
    intro finished
    rw [PacketQueue.isFinished, Bool.and_eq_true, List.isEmpty_iff] at finished ⊢
    obtain ⟨closed, -, batches, -, rest⟩ := draining finished.1
    have rest : (batches.map Prod.snd).flatten ++ after.queue.items = state.queue.items := rest
    rw [finished.2, List.append_eq_nil_iff] at rest
    exact ⟨closed, rest.2⟩

def CanLeave (capacity : Nat) (consumer : κ) (state : QueueThreads π κ σ α) : Prop :=
  ∃ after, (system π κ σ α capacity).Leads state after ∧ after.queue.shutdown ∧
    after.pops consumer = .outside

section Leaving

variable {capacity : Nat} {consumer : κ} {state : QueueThreads π κ σ α}

theorem CanLeave.step {next : QueueThreads π κ σ α} {event : Event π κ σ α}
    (step : Step event state next) (leaves : CanLeave capacity consumer next) :
    CanLeave capacity consumer state := by
  obtain ⟨after, run, rest⟩ := leaves
  exact ⟨after, Relation.ReflTransGen.head ⟨event, step⟩ run, rest⟩

theorem CanLeave.of_returning {ticket : Nat} {batch : List α} (closed : state.queue.shutdown)
    (done : state.pops consumer = .notifying ticket batch false false) :
    CanLeave capacity consumer state := by
  refine .step (Step.popReturn consumer ticket batch done) ?_
  exact ⟨_, Relation.ReflTransGen.refl, closed, Function.update_self consumer _ _⟩

theorem CanLeave.of_notifying {ticket : Nat} {batch : List α} {notEmpty : Bool}
    (closed : state.queue.shutdown)
    (due : state.pops consumer = .notifying ticket batch false notEmpty) :
    CanLeave capacity consumer state := by
  cases notEmpty with
  | false => exact of_returning closed due
  | true =>
    obtain ⟨pops, notified⟩ := NotifyOne.possible
      (Function.update state.pops consumer (.notifying ticket batch false false))
    have waiting : Function.update state.pops consumer (.notifying ticket batch false false)
        consumer = .notifying ticket batch false false := Function.update_self consumer _ _
    have kept := (notified.awake (by rw [waiting]; rfl)).trans waiting
    exact .step (Step.popNotifyEmpty consumer ticket batch pops due notified)
      (of_returning closed kept)

theorem CanLeave.of_taken {ticket : Nat} {batch : List α} {notFull notEmpty : Bool}
    (closed : state.queue.shutdown)
    (due : state.pops consumer = .notifying ticket batch notFull notEmpty) :
    CanLeave capacity consumer state := by
  cases notFull with
  | false => exact of_notifying closed due
  | true =>
    exact .step (Step.popNotifyFull consumer ticket batch notEmpty due)
      (of_notifying closed (Function.update_self consumer _ _))

theorem run_after_shutdown {queue next : PacketQueue α} {ticket maxN : Nat} {timedOut : Bool}
    {pc after : PopPc α} (closed : queue.shutdown)
    (runs : queue.run ticket timedOut pc = some (maxN, next, after)) :
    next.items = queue.items.drop maxN ∧ next.shutdown ∧
      after = .notifying ticket (queue.items.take maxN) (decide (queue.items.take maxN ≠ []))
        (decide (queue.items.drop maxN ≠ [])) := by
  obtain ⟨wanted, outcome, -⟩ := PacketQueue.run_outcome runs
  cases outcome with
  | firstWait linger empty running =>
    rw [running] at closed
    cases closed
  | lingerWait short running =>
    rw [running] at closed
    cases closed
  | take => exact ⟨rfl, closed, rfl⟩

theorem CanLeave.of_runs {maxN : Nat} {queue : PacketQueue α} {pc : PopPc α}
    (closed : state.queue.shutdown)
    (runs : state.queue.run state.history.batches.length false (state.pops consumer) =
      some (maxN, queue, pc)) :
    CanLeave capacity consumer state := by
  obtain ⟨-, stillClosed, taken⟩ := run_after_shutdown closed runs
  refine .step (Step.popRun consumer false maxN queue pc runs) ?_
  exact of_taken stillClosed ((Function.update_self consumer _ _).trans taken)

theorem CanLeave.of_awake (closed : state.queue.shutdown)
    (awake : (state.pops consumer).parked = false) : CanLeave capacity consumer state := by
  cases position : state.pops consumer with
  | outside => exact ⟨state, Relation.ReflTransGen.refl, closed, position⟩
  | entering maxN linger => exact of_runs closed (by rw [position]; rfl)
  | firstWait maxN linger parked =>
    rw [position] at awake
    cases awake
    exact of_runs closed (by rw [position]; rfl)
  | lingerWait maxN parked =>
    rw [position] at awake
    cases awake
    exact of_runs closed (by rw [position]; rfl)
  | notifying ticket batch notFull notEmpty => exact of_taken closed position

theorem CanLeave.of_shutdown (closed : state.queue.shutdown) :
    CanLeave capacity consumer state := by
  cases parked : (state.pops consumer).parked with
  | false => exact of_awake closed parked
  | true =>
    refine .step (Step.popWake consumer parked) (of_awake closed ?_)
    dsimp only
    rw [Function.update_self, PopPc.parked_wake]

theorem drained_by (consumer : κ) (closed : state.queue.shutdown) :
    ∃ after, (system π κ σ α capacity).Leads state after ∧ after.queue.isFinished := by
  have leaves : CanLeave capacity consumer state := .of_shutdown closed
  obtain ⟨free, run, stopped, outside⟩ := leaves
  have called := run.tail
    ⟨_, Step.popCall consumer free.queue.items.length false outside⟩
  have runs : free.queue.run free.history.batches.length false
      (Function.update free.pops consumer (.entering free.queue.items.length false) consumer) =
        some (free.queue.items.length,
          (free.queue.enter free.history.batches.length free.queue.items.length false).1,
          (free.queue.enter free.history.batches.length free.queue.items.length false).2) := by
    rw [Function.update_self]
    rfl
  obtain ⟨rest, stillClosed, -⟩ := run_after_shutdown stopped runs
  refine ⟨_, called.tail ⟨_, Step.popRun consumer false _ _ _ runs⟩, ?_⟩
  rw [PacketQueue.isFinished, Bool.and_eq_true, List.isEmpty_iff]
  exact ⟨stillClosed, by rw [rest, List.drop_length]⟩

end Leaving

/-- The queue is a bounded FIFO in every state of every run; after a shutdown nothing is enqueued,
    no `pop_batch` waits, and what is left is delivered in order, to any consumer that asks. -/
theorem queue_is_a_bounded_fifo {capacity : Nat} {state : QueueThreads π κ σ α}
    (reachable : (system π κ σ α capacity).Reachable state) :
    BoundedFifo capacity state ∧
    (∀ after, (system π κ σ α capacity).Leads state after → ShutdownDrains state after) ∧
    (state.queue.shutdown → ∀ ticket timedOut pc maxN next after,
      state.queue.run ticket timedOut pc = some (maxN, next, after) →
        next.items = state.queue.items.drop maxN ∧
          ∃ notFull notEmpty,
            after = .notifying ticket (state.queue.items.take maxN) notFull notEmpty) ∧
    (state.queue.shutdown → ∀ _ : κ,
      ∃ after, (system π κ σ α capacity).Leads state after ∧ after.queue.isFinished) := by
  refine ⟨.of_reachable reachable, fun after run => .of_leads run, ?_, ?_⟩
  · intro closed ticket timedOut pc maxN next after runs
    obtain ⟨rest, -, taken⟩ := run_after_shutdown closed runs
    exact ⟨rest, _, _, taken⟩
  · intro closed consumer
    exact drained_by consumer closed

theorem refused_push_run : ∃ state : QueueThreads (Fin 2) Unit Unit Nat,
    (system (Fin 2) Unit Unit Nat 1).Reachable state ∧ state.queue.items = [7] ∧
      state.history.answers = [(1, false)] ∧
        state.history.enqueued = [(0, 7)] := by
  have start : (system (Fin 2) Unit Unit Nat 1).Reachable
      ⟨{ capacity := 1 }, fun _ => .outside, fun _ => .outside, fun _ => .outside, {}⟩ :=
    TransitionSystem.Reachable.first rfl
  have first := start.next ⟨_, .pushCall 0 7 rfl⟩
  have enqueued := first.next ⟨_, .pushRun 0 0 7 rfl⟩
  have second := enqueued.next ⟨_, .pushCall 1 8 rfl⟩
  have blocked := second.next ⟨_, .pushRun 1 1 8 rfl⟩
  have closing := blocked.next ⟨_, .shutdownCall () rfl⟩
  have closed := closing.next ⟨_, .shutdownRun () rfl⟩
  have woken := closed.next ⟨_, .shutdownNotifyFull () rfl⟩
  have refused := woken.next ⟨_, .pushRun 1 1 8 rfl⟩
  have returned := refused.next ⟨_, .pushReturn 1 1 false rfl⟩
  exact ⟨_, returned, rfl, rfl, rfl⟩

theorem refused_push_is_not_enqueued : ∃ state : QueueThreads (Fin 2) Unit Unit Nat,
    state.history.answers = [(1, false)] ∧ 1 ∉ state.history.accepted ∧
      state.history.enqueuedItems = state.history.taken ++ [7] ∧ state.queue.shutdown ∧
        ∃ after, (system (Fin 2) Unit Unit Nat 1).Leads state after ∧ after.queue.isFinished := by
  obtain ⟨state, reachable, items, answers, enqueued⟩ := refused_push_run
  obtain ⟨fifo, -, -, drains⟩ := queue_is_a_bounded_fifo reachable
  have returns : state.Returns 1 false := .inl (by rw [answers]; exact List.mem_singleton.mpr rfl)
  obtain ⟨refused, closed⟩ := fifo.refused 1 false returns
  exact ⟨state, answers, refused.mp rfl, by rw [fifo.order, items], closed rfl, drains (closed rfl) ()⟩

end QueueThreads

end NetSentinel
